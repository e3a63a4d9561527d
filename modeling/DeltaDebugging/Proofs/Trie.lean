import DeltaDebugging.Trie
import Mathlib.Data.List.Dedup
import Mathlib.Data.List.Induction

/-!
# A prefix tree is a map from sequences

Every node but the root is the child of exactly one node with a lower number, so no two
sequences lead to the same node. Adding a node changes no value that can be looked up, as
it has none yet, and storing a value changes it at one sequence only. So after any operations
a sequence leads to the value that was stored under it last, unless all was cleared since, and
no operation reads or writes a node that is not there.
-/
namespace DeltaDebugging.Trie

variable {κ β : Type} {nodes : Array (TrieNode κ β)} {i i' j : Nat} {k k' : κ}
  {key key' : List κ} {b : β}

section AddChild

/-- The tree with one more node, which `i` has along `k`. -/
def addChild (nodes : Array (TrieNode κ β)) (i : Nat) (k : κ) : Array (TrieNode κ β) :=
  (nodes.setIfInBounds i
    { node nodes i with children := (k, nodes.size) :: (node nodes i).children }).push {}

theorem size_addChild (nodes : Array (TrieNode κ β)) (i : Nat) (k : κ) :
    (addChild nodes i k).size = nodes.size + 1 := by
  simp [addChild]

theorem node_addChild (hi : i < nodes.size) (i' : Nat) :
    node (addChild nodes i k) i' =
      if i' = i then { node nodes i with children := (k, nodes.size) :: (node nodes i).children }
      else node nodes i' := by
  simp only [node, addChild, Array.getD_eq_getD_getElem?, Array.getElem?_push,
    Array.size_setIfInBounds, Array.getElem?_setIfInBounds]
  by_cases hn : i' = nodes.size
  · subst hn
    simp [Nat.ne_of_gt hi]
  · by_cases hii : i' = i
    · subst hii
      simp [hn, hi]
    · simp [hn, hii, Ne.symm hii]

theorem value_addChild (hi : i < nodes.size) (i' : Nat) :
    (node (addChild nodes i k) i').value = (node nodes i').value := by
  rw [node_addChild hi]
  split
  · next h => rw [h]
  · rfl

end AddChild

section SetValue

/-- The tree with a value stored in one node. -/
def setValue (nodes : Array (TrieNode κ β)) (i : Nat) (b : β) : Array (TrieNode κ β) :=
  nodes.setIfInBounds i { node nodes i with value := some b }

theorem node_setValue (hi : i < nodes.size) (i' : Nat) :
    node (setValue nodes i b) i' =
      if i' = i then { node nodes i with value := some b } else node nodes i' := by
  simp only [node, setValue, Array.getD_eq_getD_getElem?, Array.getElem?_setIfInBounds]
  by_cases hii : i' = i
  · subst hii
    simp [hi]
  · simp [hii, Ne.symm hii]

end SetValue

variable [DecidableEq κ]

section Nodes

/-- Every edge leads from a node to one of a higher number, and no two lead to the same. -/
structure Tree (nodes : Array (TrieNode κ β)) : Prop where
  pos : 0 < nodes.size
  lt : ∀ i k j, child? nodes i k = some j → i < j ∧ j < nodes.size
  inj : ∀ i k i' k' j, child? nodes i k = some j → child? nodes i' k' = some j → i = i' ∧ k = k'

theorem walk?_append (nodes : Array (TrieNode κ β)) (i : Nat) (a b : List κ) :
    walk? nodes i (a ++ b) = (walk? nodes i a).bind fun j => walk? nodes j b := by
  induction a generalizing i with
  | nil => rfl
  | cons k a ih => simp [walk?, ih, Option.bind_assoc]

theorem walk?_concat (nodes : Array (TrieNode κ β)) (i : Nat) (key : List κ) (k : κ) :
    walk? nodes i (key ++ [k]) = (walk? nodes i key).bind fun j => child? nodes j k := by
  rw [walk?_append]
  simp [walk?]

namespace Tree

theorem lt_of_walk? (h : Tree nodes) (hi : i < nodes.size) (hj : walk? nodes i key = some j) :
    j < nodes.size := by
  induction key generalizing i with
  | nil => exact Option.some_inj.mp hj ▸ hi
  | cons k key ih =>
    obtain ⟨m, hm, hj⟩ := Option.bind_eq_some_iff.mp hj
    exact ih (h.lt i k m hm).2 hj

/-- No node is reached from the root in two ways. -/
theorem walk?_inj (h : Tree nodes) (hj : walk? nodes 0 key = some j)
    (hj' : walk? nodes 0 key' = some j) : key = key' := by
  induction key using List.reverseRecOn generalizing key' j with
  | nil =>
    obtain rfl : 0 = j := Option.some_inj.mp hj
    induction key' using List.reverseRecOn with
    | nil => rfl
    | append_singleton key' k' _ =>
      rw [walk?_concat] at hj'
      obtain ⟨m, -, hm⟩ := Option.bind_eq_some_iff.mp hj'
      exact absurd (h.lt m k' 0 hm).1 (Nat.not_lt_zero m)
  | append_singleton key k ih =>
    rw [walk?_concat] at hj
    obtain ⟨m, hkey, hm⟩ := Option.bind_eq_some_iff.mp hj
    induction key' using List.reverseRecOn with
    | nil =>
      obtain rfl : 0 = j := Option.some_inj.mp hj'
      exact absurd (h.lt m k 0 hm).1 (Nat.not_lt_zero m)
    | append_singleton key' k' _ =>
      rw [walk?_concat] at hj'
      obtain ⟨m', hkey', hm'⟩ := Option.bind_eq_some_iff.mp hj'
      obtain ⟨rfl, rfl⟩ := h.inj m k m' k' j hm hm'
      rw [ih hkey hkey']

end Tree

end Nodes

section Lookup

theorem child?_addChild (hi : i < nodes.size) (i' : Nat) (k' : κ) :
    child? (addChild nodes i k) i' k' =
      if i' = i ∧ k' = k then some nodes.size else child? nodes i' k' := by
  unfold child?
  rw [node_addChild hi]
  by_cases hii : i' = i
  · subst hii
    by_cases hk : k' = k
    · simp [hk]
    · simp [List.lookup_cons, hk, beq_eq_false_iff_ne.mpr hk]
  · simp [hii]

theorem Tree.addChild (h : Tree nodes) (hi : i < nodes.size) : Tree (addChild nodes i k) where
  pos := by
    rw [size_addChild]
    omega
  lt i' k' j hj := by
    rw [child?_addChild hi] at hj
    rw [size_addChild]
    split at hj
    · next heq =>
      cases hj
      omega
    · have := h.lt i' k' j hj
      omega
  inj i₁ k₁ i₂ k₂ j h₁ h₂ := by
    rw [child?_addChild hi] at h₁ h₂
    split at h₁ <;> split at h₂
    · next heq₁ heq₂ => exact ⟨heq₁.1.trans heq₂.1.symm, heq₁.2.trans heq₂.2.symm⟩
    · cases h₁
      exact absurd (h.lt i₂ k₂ _ h₂).2 (Nat.lt_irrefl _)
    · cases h₂
      exact absurd (h.lt i₁ k₁ _ h₁).2 (Nat.lt_irrefl _)
    · exact h.inj i₁ k₁ i₂ k₂ j h₁ h₂

def lookup (nodes : Array (TrieNode κ β)) (i : Nat) (key : List κ) : Option β :=
  (walk? nodes i key).bind fun j => (node nodes j).value

theorem lookup_cons (nodes : Array (TrieNode κ β)) (i : Nat) (k : κ) (key : List κ) :
    lookup nodes i (k :: key) = (child? nodes i k).bind fun j => lookup nodes j key := by
  simp [lookup, walk?, Option.bind_assoc]

theorem lookup_addChild (h : Tree nodes) (hi : i < nodes.size) (hnew : child? nodes i k = none)
    (hi' : i' < nodes.size) : lookup (addChild nodes i k) i' key = lookup nodes i' key := by
  have hfresh : ∀ key, lookup (addChild nodes i k) nodes.size key = none := by
    have hempty : node nodes nodes.size = {} := by simp [node]
    intro key
    cases key with
    | nil =>
      change (node (addChild nodes i k) nodes.size).value = none
      rw [value_addChild hi, hempty]
    | cons k' key =>
      rw [lookup_cons, child?_addChild hi, if_neg (fun heq => Nat.ne_of_gt hi heq.1), child?,
        hempty]
      rfl
  induction key generalizing i' with
  | nil => exact value_addChild hi i'
  | cons k' key ih =>
    rw [lookup_cons, lookup_cons, child?_addChild hi]
    split
    · next heq =>
      rw [heq.1, heq.2, hnew]
      exact hfresh key
    · cases hj : child? nodes i' k' with
      | none => rfl
      | some j => exact ih (h.lt i' k' j hj).2

end Lookup

section Insert

theorem descend_cons_of_none (hnew : child? nodes i k = none) (key : List κ) :
    descend nodes i (k :: key) = descend (addChild nodes i k) nodes.size key := by
  rw [descend, hnew]
  rfl

/-- Descending leads to the node of a key and changes nothing that can be looked up. -/
theorem descend_spec (key : List κ) (h : Tree nodes) (hi : i < nodes.size) :
    Tree (descend nodes i key).1 ∧ nodes.size ≤ (descend nodes i key).1.size ∧
      walk? (descend nodes i key).1 i key = some (descend nodes i key).2 ∧
      (∀ i' k j, child? nodes i' k = some j → child? (descend nodes i key).1 i' k = some j) ∧
      ∀ i' < nodes.size, ∀ key', lookup (descend nodes i key).1 i' key' = lookup nodes i' key' := by
  induction key generalizing nodes i with
  | nil => exact ⟨h, Nat.le_refl _, rfl, fun _ _ _ => id, fun _ _ _ => rfl⟩
  | cons k key ih =>
    cases hk : child? nodes i k with
    | some m =>
      obtain ⟨htree, hsize, hwalk, hchild, hlookup⟩ := ih h (h.lt i k m hk).2
      have hdescend : descend nodes i (k :: key) = descend nodes m key := by rw [descend, hk]
      rw [hdescend]
      refine ⟨htree, hsize, ?_, hchild, hlookup⟩
      rw [walk?, hchild i k m hk]
      exact hwalk
    | none =>
      have hlt : nodes.size < (addChild nodes i k).size := by
        rw [size_addChild]
        omega
      obtain ⟨htree, hsize, hwalk, hchild, hlookup⟩ := ih (h.addChild hi) hlt
      rw [descend_cons_of_none hk]
      refine ⟨htree, by omega, ?_, fun i' k' j hj => hchild i' k' j ?_, fun i' hi' key' => ?_⟩
      · rw [walk?, hchild i k nodes.size (by rw [child?_addChild hi, if_pos ⟨rfl, rfl⟩])]
        exact hwalk
      · rw [child?_addChild hi, if_neg (by rintro ⟨rfl, rfl⟩; rw [hk] at hj; cases hj)]
        exact hj
      · rw [hlookup i' (by omega) key', lookup_addChild h hi hk hi']

theorem child?_setValue (hi : i < nodes.size) (i' : Nat) (k : κ) :
    child? (setValue nodes i b) i' k = child? nodes i' k := by
  rw [child?, child?, node_setValue hi]
  split
  · next h => rw [h]
  · rfl

theorem walk?_setValue (hi : i < nodes.size) (i' : Nat) (key : List κ) :
    walk? (setValue nodes i b) i' key = walk? nodes i' key := by
  induction key generalizing i' with
  | nil => rfl
  | cons k key ih => simp only [walk?, child?_setValue hi, ih]

theorem Tree.setValue (h : Tree nodes) (hi : i < nodes.size) : Tree (setValue nodes i b) where
  pos := by simpa [Trie.setValue] using h.pos
  lt i' k j hj := by
    rw [child?_setValue hi] at hj
    simpa [Trie.setValue] using h.lt i' k j hj
  inj i₁ k₁ i₂ k₂ j h₁ h₂ := by
    rw [child?_setValue hi] at h₁ h₂
    exact h.inj i₁ k₁ i₂ k₂ j h₁ h₂

/-- Only the sequence that leads to the node has another value now. -/
theorem lookup_setValue (h : Tree nodes) (hi : walk? nodes 0 key = some i) (key' : List κ) :
    lookup (setValue nodes i b) 0 key' = if key' = key then some b else lookup nodes 0 key' := by
  have hlt := h.lt_of_walk? h.pos hi
  rw [lookup, walk?_setValue hlt]
  split
  · next heq =>
    rw [heq, hi, Option.bind_some, node_setValue hlt, if_pos rfl]
  · next hne =>
    cases hj : walk? nodes 0 key' with
    | none => simp [lookup, hj]
    | some j =>
      have hji : j ≠ i := fun heq => hne (h.walk?_inj (heq ▸ hj) hi)
      rw [Option.bind_some, node_setValue hlt, if_neg hji, lookup, hj, Option.bind_some]

/-- The nodes of a trie form a tree. -/
def WF (t : Trie κ β) : Prop := Tree t.nodes

theorem wf_empty : (empty : Trie κ β).WF where
  pos := by simp [empty]
  lt i k j hj := by cases i <;> simp [empty, child?, node] at hj
  inj i k i' k' j hj := by cases i <;> simp [empty, child?, node] at hj

@[simp] theorem get?_empty (key : List κ) : (empty : Trie κ β).get? key = none := by
  cases key <;> rfl

theorem WF.insert {t : Trie κ β} (h : t.WF) (key : List κ) (b : β) : (t.insert key b).2.WF := by
  obtain ⟨htree, hsize, hwalk, -⟩ := descend_spec key h h.pos
  exact htree.setValue (htree.lt_of_walk? htree.pos hwalk)

theorem WF.get?_insert {t : Trie κ β} (h : t.WF) (key : List κ) (b : β) (key' : List κ) :
    (t.insert key b).2.get? key' = if key' = key then some b else t.get? key' := by
  obtain ⟨htree, -, hwalk, -, hlookup⟩ := descend_spec key h h.pos
  change lookup (setValue _ _ b) 0 key' = _
  rw [lookup_setValue htree hwalk, hlookup 0 h.pos]
  rfl

theorem WF.insert_fst {t : Trie κ β} (h : t.WF) (key : List κ) (b : β) :
    (t.insert key b).1 = t.get? key := by
  obtain ⟨-, -, hwalk, -, hlookup⟩ := descend_spec key h h.pos
  have hvalue := hlookup 0 h.pos key
  rw [lookup, hwalk, Option.bind_some] at hvalue
  exact hvalue

theorem WF.size_insert {t : Trie κ β} (h : t.WF) (key : List κ) (b : β) :
    (t.insert key b).2.size = if (t.get? key).isNone then t.size + 1 else t.size := by
  rw [← h.insert_fst key b]
  rfl

theorem WF.clear_eq_empty {t : Trie κ β} (h : t.WF) : t.clear = empty := by
  have hpos : 0 < t.nodes.size := h.pos
  have hnodes : (t.nodes.take 1).setIfInBounds 0 {} = #[{}] := by
    apply Array.ext
    · simp
      omega
    · intro i hi hi'
      obtain rfl : i = 0 := by simpa using hi'
      simp
  rw [clear, hnodes]
  rfl

end Insert

inductive Operation (κ β : Type) where
  | get (key : List κ)
  | insert (key : List κ) (b : β)
  | clear
  deriving DecidableEq, Repr

section Operations

variable {t : Trie κ β} {entries : List (List κ × β)}

/-- The answer to an operation and the map that it leaves; clearing answers nothing. -/
def perform (t : Trie κ β) : Operation κ β → Option β × Trie κ β
  | .get key => (t.get? key, t)
  | .insert key b => t.insert key b
  | .clear => (none, t.clear)

def performAll (t : Trie κ β) (ops : List (Operation κ β)) : Trie κ β :=
  ops.foldl (fun t op => (t.perform op).2) t

namespace Operation

def isClear : Operation κ β → Bool
  | clear => true
  | _ => false

/-- The key that is stored under, and the value. -/
def entry? : Operation κ β → Option (List κ × β)
  | insert key b => some (key, b)
  | _ => none

end Operation

/-- What was stored since all was cleared, the latest first. -/
def stored (ops : List (Operation κ β)) : List (List κ × β) :=
  (ops.reverse.takeWhile fun op => !op.isClear).filterMap Operation.entry?

omit [DecidableEq κ] in
theorem stored_concat (ops : List (Operation κ β)) (op : Operation κ β) :
    stored (ops ++ [op]) = match op with
      | .get _ => stored ops
      | .insert key b => (key, b) :: stored ops
      | .clear => [] := by
  cases op <;> simp [stored, Operation.isClear, Operation.entry?, List.filterMap_cons]

/-- The map finds under a key the first of the entries under it. -/
structure Stores (t : Trie κ β) (entries : List (List κ × β)) : Prop where
  valid : t.WF
  found : ∀ key, t.get? key = entries.lookup key
  size : t.size = (entries.map Prod.fst).dedup.length

namespace Stores

theorem empty : (Trie.empty : Trie κ β).Stores [] := ⟨wf_empty, get?_empty, rfl⟩

theorem insert (h : t.Stores entries) (key : List κ) (b : β) :
    (t.insert key b).2.Stores ((key, b) :: entries) where
  valid := h.valid.insert key b
  found key' := by
    rw [h.valid.get?_insert, List.lookup_cons, h.found]
    by_cases heq : key' = key
    · simp [heq]
    · simp [heq, beq_eq_false_iff_ne.mpr heq]
  size := by
    rw [h.valid.size_insert, h.found, h.size, List.map_cons]
    by_cases hmem : key ∈ entries.map Prod.fst
    · have hold : entries.lookup key ≠ none := fun hnone => by
        obtain ⟨e, he, rfl⟩ := List.mem_map.mp hmem
        simpa using List.lookup_eq_none_iff.mp hnone e he
      rw [List.dedup_cons_of_mem hmem, if_neg (by simpa using hold)]
    · have hnew : entries.lookup key = none := List.lookup_eq_none_iff.mpr fun e he => by
        have hne : key ≠ e.1 := fun heq => hmem (List.mem_map.mpr ⟨e, he, heq.symm⟩)
        simpa using hne
      rw [List.dedup_cons_of_notMem hmem, if_pos (by simp [hnew]), List.length_cons]

theorem clear (h : t.Stores entries) : t.clear.Stores [] := by
  rw [h.valid.clear_eq_empty]
  exact empty

theorem performAll (ops : List (Operation κ β)) :
    ((Trie.empty : Trie κ β).performAll ops).Stores (stored ops) := by
  induction ops using List.reverseRecOn with
  | nil => exact empty
  | append_singleton ops op ih =>
    rw [Trie.performAll, List.foldl_append, List.foldl_cons, List.foldl_nil, ← Trie.performAll,
      stored_concat]
    cases op with
    | get key => exact ih
    | insert key b => exact ih.insert key b
    | clear => exact ih.clear

end Stores

section Within

/-- Looking a value up in an array that must not be read outside of its range: that is `none`. -/
def lookupWithin (nodes : Array (TrieNode κ β)) : Nat → List κ → Option (Option β)
  | i, [] => nodes[i]?.map TrieNode.value
  | i, k :: key => nodes[i]?.bind fun parent =>
    match parent.children.lookup k with
    | some j => lookupWithin nodes j key
    | none => some none

/-- Descending in an array that must not be read or written outside of its range. -/
def descendWithin (nodes : Array (TrieNode κ β)) : Nat → List κ →
    Option (Array (TrieNode κ β) × Nat)
  | i, [] => some (nodes, i)
  | i, k :: key => nodes[i]?.bind fun parent =>
    match parent.children.lookup k with
    | some j => descendWithin nodes j key
    | none => descendWithin (addChild nodes i k) nodes.size key

/-- An operation on an array that must not be read or written outside of its range. -/
def performWithin (t : Trie κ β) : Operation κ β → Option (Option β × Trie κ β)
  | .get key => (lookupWithin t.nodes 0 key).map fun found => (found, t)
  | .insert key b => (descendWithin t.nodes 0 key).bind fun (nodes, i) =>
    nodes[i]?.map fun target =>
      (target.value, ⟨setValue nodes i b, if target.value.isNone then t.size + 1 else t.size⟩)
  | .clear => (t.nodes.take 1)[0]?.map fun _ => (none, t.clear)

omit [DecidableEq κ] in
theorem getElem?_eq_node (hi : i < nodes.size) : nodes[i]? = some (node nodes i) := by
  simp [node, hi]

namespace Tree

theorem lookupWithin (h : Tree nodes) (hi : i < nodes.size) :
    Trie.lookupWithin nodes i key = some (lookup nodes i key) := by
  induction key generalizing i with
  | nil =>
    rw [Trie.lookupWithin, getElem?_eq_node hi]
    rfl
  | cons k key ih =>
    rw [Trie.lookupWithin, getElem?_eq_node hi, lookup_cons, Option.bind_some]
    cases hj : child? nodes i k with
    | none =>
      rw [child?] at hj
      rw [hj]
      rfl
    | some j =>
      have hlt := (h.lt i k j hj).2
      rw [child?] at hj
      rw [hj]
      exact ih hlt

theorem descendWithin (h : Tree nodes) (hi : i < nodes.size) :
    Trie.descendWithin nodes i key = some (descend nodes i key) := by
  induction key generalizing nodes i with
  | nil => rfl
  | cons k key ih =>
    rw [Trie.descendWithin, getElem?_eq_node hi, Option.bind_some, ← child?]
    cases hj : child? nodes i k with
    | none =>
      rw [descend_cons_of_none hj]
      exact ih (h.addChild hi) (by rw [size_addChild]; omega)
    | some j =>
      rw [descend, hj]
      exact ih h (h.lt i k j hj).2

end Tree

theorem WF.performWithin (h : t.WF) (op : Operation κ β) :
    t.performWithin op = some (t.perform op) := by
  cases op with
  | get key =>
    rw [Trie.performWithin, Tree.lookupWithin h h.pos]
    rfl
  | insert key b =>
    obtain ⟨htree, -, hwalk, -⟩ := descend_spec key h h.pos
    have hlt := htree.lt_of_walk? htree.pos hwalk
    rw [Trie.performWithin, Tree.descendWithin h h.pos, Option.bind_some]
    dsimp only
    rw [getElem?_eq_node hlt]
    rfl
  | clear =>
    have hpos : 0 < (t.nodes.take 1).size := by
      have := h.pos
      simp
      omega
    rw [Trie.performWithin, getElem?_eq_node hpos]
    rfl

end Within

/-- After any operations on a map that was empty, a key leads to the value that was stored under
it last since all was cleared, and to nothing if none was. An insertion returns this value, and
changes what is found under its own key alone. The size is the number of different keys stored
under since then. No operation accesses a node that is not there. -/
theorem performAll_stores_latest (ops : List (Operation κ β)) :
    let t := (empty : Trie κ β).performAll ops
    (∀ key, t.get? key = (stored ops).lookup key) ∧
    (∀ key b, (t.insert key b).1 = (stored ops).lookup key) ∧
    t.size = ((stored ops).map Prod.fst).dedup.length ∧
    (t.isEmpty = true ↔ t.size = 0) ∧
    (∀ key b key', (t.insert key b).2.get? key' = if key' = key then some b else t.get? key') ∧
    ∀ op, t.performWithin op = some (t.perform op) := by
  intro t
  have h : t.Stores (stored ops) := .performAll ops
  refine ⟨h.found, fun key b => ?_, h.size, ?_, h.valid.get?_insert, h.valid.performWithin⟩
  · rw [h.valid.insert_fst, h.found]
  · exact beq_iff_eq

end Operations

end DeltaDebugging.Trie
