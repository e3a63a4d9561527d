import DeltaDebugging.Proofs.Graph.UnionFind
import Mathlib.Algebra.Group.Nat.Defs
import Mathlib.Data.Finset.Card
import Mathlib.Data.Nat.Log
import Mathlib.Data.Set.Card

/-!
# Requests served by disjoint sets

Searches, unions, comparisons and listings may come in any order. All but the unions
shorten paths only, so what a request is answered depends on the pairs united before it
and on nothing else. A root of rank `k` has at least `2 ^ k` elements in its tree: its
rank grows only when it gets a tree of the same rank.
-/
namespace DeltaDebugging.UnionFind

variable {parent : Array Nat} {rank : Nat → Nat} {u v : UnionFind} {x y z r : Nat}

section Loops

/-- Following the array from `x` stays inside it and ends at `r`, which points to itself. -/
inductive Ascends (parent : Array Nat) : Nat → Nat → Prop
  | root {r : Nat} : parent[r]? = some r → Ascends parent r r
  | step {x y r : Nat} : parent[x]? = some y → y ≠ x → Ascends parent y r → Ascends parent x r

/-- Pointing one element after another at `r`, from `x` up to the one that points there
already, stays inside the array and ends with the last one. -/
inductive Shortens (r : Nat) : Array Nat → Nat → Array Nat → Prop
  | last {parent : Array Nat} {x : Nat} : parent[x]? = some r → Shortens r parent x parent
  | step {parent parent' : Array Nat} {x y : Nat} : parent[x]? = some y → y ≠ r →
      Shortens r (parent.setIfInBounds x r) y parent' → Shortens r parent x parent'

theorem getElem?_eq_up (hx : x < parent.size) : parent[x]? = some (up parent x) := by
  simp [up, hx]

namespace Forest

variable (h : Forest rank parent)

include h

theorem ascends (hx : Climbs parent x r) (hlt : x < parent.size) : Ascends parent x r := by
  induction hx with
  | root hx => exact .root ((getElem?_eq_up hlt).trans (congrArg some hx))
  | step hne _ ih => exact .step (getElem?_eq_up hlt) hne (ih (h.up_lt _ hlt))

theorem shortens (hx : Climbs parent x r) (hlt : x < parent.size) {steps : Nat}
    (hsteps : (above rank parent.size x).length ≤ steps) :
    Shortens r parent x (UnionFind.compress r steps parent x) := by
  induction steps generalizing parent x with
  | zero =>
    cases hx with
    | root hx => exact .last ((getElem?_eq_up hlt).trans (congrArg some hx))
    | step hne _ =>
      have := h.above_up_lt hne
      omega
  | succ steps ih =>
    unfold UnionFind.compress
    split
    · next hup => exact .last ((getElem?_eq_up hlt).trans (congrArg some hup))
    · next hup =>
      cases hx with
      | root hroot => exact absurd hroot hup
      | step hne hrest =>
        have huplt := h.up_lt x hlt
        have hrank := Nat.lt_of_lt_of_le (h.rank_lt x hne) (h.rank_le hrest)
        have hfewer := h.above_up_lt hne
        refine .step (getElem?_eq_up hlt) hup ?_
        exact ih (h.set hlt (h.lt_size hrest huplt) hrank) (.redirect (.step hne hrest) hne hrest)
          (by rwa [Array.size_setIfInBounds]) (by rw [Array.size_setIfInBounds]; omega)

end Forest

theorem WF.find_loops (h : u.WF) (hx : x < u.size) :
    Ascends u.parent x (u.find x).1 ∧
      Shortens (u.find x).1 u.parent x (u.find x).2.parent := by
  refine ⟨h.forest.ascends (h.climbs_root x) hx, h.forest.shortens (h.climbs_root x) hx ?_⟩
  exact Nat.le_trans (List.length_filter_le _ _) (by simp [size])

end Loops

section Trees

def roots (u : UnionFind) : Finset Nat := {r ∈ Finset.range u.size | u.root r = r}

/-- The elements below the root `r`, and `r` itself. -/
def tree (u : UnionFind) (r : Nat) : Finset Nat := {x ∈ Finset.range u.size | u.root x = r}

@[simp] theorem mem_roots : r ∈ u.roots ↔ r < u.size ∧ u.root r = r := by simp [roots]

@[simp] theorem mem_tree : x ∈ u.tree r ↔ x < u.size ∧ u.root x = r := by simp [tree]

theorem card_tree (u : UnionFind) (r : Nat) :
    (u.tree r).card = (members u.root u.size r).length := rfl

/-- The sets are counted, and a root of rank `k` has at least `2 ^ k` elements in its tree. -/
structure Tallied (u : UnionFind) : Prop where
  wf : u.WF
  setCount : u.setCount = u.roots.card
  pow_le : ∀ r ∈ u.roots, 2 ^ u.rank.getD r 0 ≤ (u.tree r).card

theorem tallied_singletons (n : Nat) : (singletons n).Tallied where
  wf := wf_singletons n
  setCount := by
    have hroots : (singletons n).roots = Finset.range n := by
      ext
      simp [root_singletons]
    rw [hroots, Finset.card_range]
    rfl
  pow_le r hr := by
    have hrank : (singletons n).rank.getD r 0 = 0 := by simp [singletons, Array.getD]
    have hself : r ∈ (singletons n).tree r := by simpa using hr
    rw [hrank]
    exact Finset.card_pos.mpr ⟨r, hself⟩

theorem Alike.tallied (h : Alike u v) (hu : u.Tallied) : v.Tallied := by
  have hroots : v.roots = u.roots := by
    ext
    simp [h.size, h.root]
  have htree : ∀ r, v.tree r = u.tree r := by
    intro r
    ext
    simp [h.size, h.root]
  refine ⟨h.wf, ?_, fun r hr => ?_⟩
  · rw [h.setCount, hu.setCount, hroots]
  · rw [h.rank, htree]
    exact hu.pow_le r (hroots ▸ hr)

theorem WF.union_of_eq (h : u.WF) (hx : x < u.size) (hy : y < u.size)
    (heq : u.root x = u.root y) : Alike u (u.union x y).2 := by
  obtain ⟨hwf, -, hroot, hrank, hcount⟩ := h.union_spec hx hy
  refine ⟨hwf, size_union u x y, fun z => ?_, fun z => ?_, ?_⟩
  · rw [hroot]
    simp [upper, heq, eq_comm]
  · simp [hrank, heq]
  · simp [hcount, heq]

namespace Tallied

variable (h : u.Tallied)

include h

/-- The lower of two roots is no root any more after a union. -/
theorem roots_union (hx : x < u.size) (hy : y < u.size) (hne : u.root x ≠ u.root y) :
    ∃ lower, (lower = u.root x ∨ lower = u.root y) ∧
      (u.union x y).2.roots = u.roots.erase lower := by
  have hself := h.wf.root_root
  have hlower : ∃ lower, (lower = u.root x ∨ lower = u.root y) ∧ lower ≠ u.upper x y ∧
      ∀ z, z = u.root x ∨ z = u.root y → z = lower ∨ z = u.upper x y := by
    rcases u.upper_eq_or x y with hupper | hupper <;> rw [hupper]
    · exact ⟨_, .inr rfl, hne.symm, fun z hz => hz.symm⟩
    · exact ⟨_, .inl rfl, hne, fun z hz => hz⟩
  obtain ⟨lower, hlower, hapart, htwo⟩ := hlower
  refine ⟨lower, hlower, ?_⟩
  ext z
  rw [Finset.mem_erase, mem_roots, mem_roots, size_union, h.wf.root_union hx hy]
  grind [upper_eq_or]

theorem tree_subset_union (hx : x < u.size) (hy : y < u.size)
    (hr : r ∈ (u.union x y).2.roots) : u.tree r ⊆ (u.union x y).2.tree r := by
  intro z hz
  rw [mem_roots, size_union, h.wf.root_union hx hy] at hr
  rw [mem_tree] at hz ⊢
  rw [size_union, h.wf.root_union hx hy]
  have hroot := h.wf.root_root z
  grind

theorem union (hx : x < u.size) (hy : y < u.size) : (u.union x y).2.Tallied := by
  by_cases heq : u.root x = u.root y
  · exact (h.wf.union_of_eq hx hy heq).tallied h
  obtain ⟨hwf, -, hroot, hrank, hcount⟩ := h.wf.union_spec hx hy
  obtain ⟨lower, hlower, hroots⟩ := h.roots_union hx hy heq
  have hxroot : u.root x ∈ u.roots := mem_roots.mpr ⟨h.wf.root_lt hx, h.wf.root_root x⟩
  have hyroot : u.root y ∈ u.roots := mem_roots.mpr ⟨h.wf.root_lt hy, h.wf.root_root y⟩
  have hmem : lower ∈ u.roots := by rcases hlower with rfl | rfl <;> assumption
  refine ⟨hwf, ?_, fun r hr => ?_⟩
  · rw [hcount, if_neg heq, hroots, Finset.card_erase_of_mem hmem, h.setCount]
  · have hsub := h.tree_subset_union hx hy hr
    rw [hrank]
    split
    · next hgrown =>
      -- The rank grows, and the tree takes in the other one, which has the same rank.
      obtain ⟨-, hranks, rfl⟩ := hgrown
      have hdisjoint : Disjoint (u.tree (u.root x)) (u.tree (u.root y)) :=
        Finset.disjoint_left.mpr fun z hz hz' =>
          heq ((mem_tree.mp hz).2.symm.trans (mem_tree.mp hz').2)
      have hother : u.tree (u.root y) ⊆ (u.union x y).2.tree (u.root x) := by
        intro z hz
        rw [mem_tree] at hz ⊢
        have hupper : u.upper x y = u.root x := if_neg (by omega)
        rw [size_union, hroot, if_pos (.inr hz.2), hupper]
        exact ⟨hz.1, rfl⟩
      have htwo := Finset.card_le_card (Finset.union_subset hsub hother)
      rw [Finset.card_union_of_disjoint hdisjoint] at htwo
      have hxpow := h.pow_le _ hxroot
      have hypow := h.pow_le _ hyroot
      rw [← hranks] at hypow
      rw [Nat.pow_succ]
      omega
    · have hold : r ∈ u.roots := Finset.mem_of_mem_erase (hroots ▸ hr)
      exact Nat.le_trans (h.pow_le r hold) (Finset.card_le_card hsub)

theorem unions {pairs : List (Nat × Nat)} (hlt : ∀ e ∈ pairs, e.1 < u.size ∧ e.2 < u.size) :
    (u.unions pairs).Tallied := by
  induction pairs generalizing u with
  | nil => exact h
  | cons e pairs ih =>
    obtain ⟨hx, hy⟩ := hlt e List.mem_cons_self
    refine ih (h.union hx hy) fun e' he' => ?_
    rw [size_union]
    exact hlt e' (List.mem_cons_of_mem _ he')

theorem rank_le_log2 (hr : r ∈ u.roots) : u.rank.getD r 0 ≤ Nat.log2 (u.tree r).card := by
  have hself : r ∈ u.tree r := mem_tree.mpr (mem_roots.mp hr)
  exact (Nat.le_log2 (Finset.card_ne_zero_of_mem hself)).mpr (h.pow_le r hr)

/-- No rank is higher than the logarithm of the number of elements. -/
theorem pow_rank_le (hx : x < u.size) : 2 ^ u.rank.getD x 0 ≤ u.size := by
  have hroot : u.root x ∈ u.roots := mem_roots.mpr ⟨h.wf.root_lt hx, h.wf.root_root x⟩
  calc
    2 ^ u.rank.getD x 0 ≤ 2 ^ u.rank.getD (u.root x) 0 :=
      Nat.pow_le_pow_right (by omega) (h.wf.forest.rank_le (h.wf.climbs_root x))
    _ ≤ (u.tree (u.root x)).card := h.pow_le _ hroot
    _ ≤ (Finset.range u.size).card := Finset.card_le_card (Finset.filter_subset _ _)
    _ = u.size := Finset.card_range _

end Tallied

end Trees

section Requests

inductive Request
  | find (x : Nat)
  | union (x y : Nat)
  | connected (x y : Nat)
  | groups
  deriving DecidableEq, Repr

namespace Request

def elements : Request → List Nat
  | find x => [x]
  | union x y | connected x y => [x, y]
  | groups => []

/-- The pair that a request unites, if it does. -/
def pair? : Request → Option (Nat × Nat)
  | union x y => some (x, y)
  | _ => none

theorem eq_union_of_pair? {q : Request} {e : Nat × Nat} (h : q.pair? = some e) :
    q = .union e.1 e.2 := by
  cases q with
  | union x y => rw [← Option.some.inj h]
  | _ => exact absurd h.symm (Option.some_ne_none e)

end Request

inductive Reply
  | representative (r : Nat)
  | verdict (same : Bool)
  | groups (groups : List (List Nat))
  deriving DecidableEq, Repr

/-- The reply to one request, and the forest after it. -/
def reply (u : UnionFind) : Request → Reply × UnionFind
  | .find x => (u.find x).map .representative id
  | .union x y => (u.union x y).map .representative id
  | .connected x y => (u.connected x y).map .verdict id
  | .groups => u.gather.map .groups id

/-- The replies to requests, each with the number of sets after it, and the forest at the end. -/
def serve (u : UnionFind) : List Request → List (Reply × Nat) × UnionFind
  | [] => ([], u)
  | request :: requests =>
    let (answer, u) := u.reply request
    let (answers, last) := u.serve requests
    ((answer, u.setCount) :: answers, last)

theorem WF.connected (h : u.WF) (x y : Nat) :
    (u.connected x y).1 = decide (u.root x = u.root y) ∧ Alike u (u.connected x y).2 := by
  have hfind := h.find x
  refine ⟨?_, hfind.trans (hfind.wf.find y)⟩
  rw [← hfind.root y]
  rfl

/-- A request that unites nothing shortens paths at most. -/
theorem WF.reply_query (h : u.WF) {request : Request} (hquery : request.pair? = none) :
    Alike u (u.reply request).2 := by
  cases request with
  | find x => exact h.find x
  | union x y => exact absurd hquery (Option.some_ne_none _)
  | connected x y => exact (h.connected x y).2
  | groups => exact h.gather

theorem WF.wf_reply (h : u.WF) {request : Request} (hlt : ∀ x ∈ request.elements, x < u.size) :
    (u.reply request).2.WF ∧ (u.reply request).2.size = u.size := by
  cases hpair : request.pair? with
  | none =>
    have halike := h.reply_query hpair
    exact ⟨halike.wf, halike.size⟩
  | some e =>
    obtain rfl := Request.eq_union_of_pair? hpair
    exact ⟨(h.union_spec (hlt e.1 (by simp [Request.elements]))
      (hlt e.2 (by simp [Request.elements]))).1, size_union u e.1 e.2⟩

namespace Alike

variable (h : Alike u v) (hu : u.WF)

include h hu

theorem union (hx : x < u.size) (hy : y < u.size) :
    (v.union x y).1 = (u.union x y).1 ∧ Alike (u.union x y).2 (v.union x y).2 := by
  obtain ⟨-, hupper, hroot, hrank, hcount⟩ := hu.union_spec hx hy
  obtain ⟨hwf, hupper', hroot', hrank', hcount'⟩ :=
    h.wf.union_spec (h.size ▸ hx) (h.size ▸ hy)
  have huppers : v.upper x y = u.upper x y := by simp only [upper, h.root, h.rank]
  refine ⟨by rw [hupper, hupper', huppers], hwf, ?_, fun z => ?_, fun z => ?_, ?_⟩
  · rw [size_union, size_union, h.size]
  · rw [hroot, hroot', huppers]
    simp only [h.root]
  · rw [hrank, hrank']
    simp only [h.root, h.rank]
  · rw [hcount, hcount']
    simp only [h.root, h.setCount]

theorem groups : v.groups = u.groups := by
  have hroot : v.root = u.root := funext h.root
  have hfiled : (fileAll (List.range v.size) [] v).1 = (fileAll (List.range u.size) [] u).1 := by
    rw [(hu.fileAll _ _).1, (h.wf.fileAll _ _).1, hroot, h.size]
  simp only [UnionFind.groups, gather, hfiled]

theorem reply {request : Request} (hlt : ∀ x ∈ request.elements, x < u.size) :
    (v.reply request).1 = (u.reply request).1 ∧ Alike (u.reply request).2 (v.reply request).2 := by
  cases hpair : request.pair? with
  | none =>
    refine ⟨?_, (hu.reply_query hpair).symm hu |>.trans h |>.trans (h.wf.reply_query hpair)⟩
    cases request with
    | find x => exact congrArg Reply.representative (h.root x)
    | union x y => exact absurd hpair (Option.some_ne_none _)
    | connected x y =>
      have hsame : (v.connected x y).1 = (u.connected x y).1 := by
        rw [(hu.connected x y).1, (h.wf.connected x y).1, h.root, h.root]
      exact congrArg Reply.verdict hsame
    | groups => exact congrArg Reply.groups (h.groups hu)
  | some e =>
    obtain rfl := Request.eq_union_of_pair? hpair
    obtain ⟨heq, halike⟩ := h.union hu (hlt e.1 (by simp [Request.elements]))
      (hlt e.2 (by simp [Request.elements]))
    exact ⟨congrArg Reply.representative heq, halike⟩

theorem serve {requests : List Request} (hlt : ∀ q ∈ requests, ∀ x ∈ q.elements, x < u.size) :
    (v.serve requests).1 = (u.serve requests).1 ∧
      Alike (u.serve requests).2 (v.serve requests).2 := by
  induction requests generalizing u v with
  | nil => exact ⟨rfl, h⟩
  | cons q requests ih =>
    have hq := hlt q List.mem_cons_self
    obtain ⟨heq, halike⟩ := h.reply hu hq
    obtain ⟨hwf, hsize⟩ := hu.wf_reply hq
    obtain ⟨hall, hlast⟩ := ih halike hwf fun q' hq' => by
      rw [hsize]
      exact hlt q' (List.mem_cons_of_mem _ hq')
    refine ⟨?_, hlast⟩
    simp only [UnionFind.serve, heq, halike.setCount, hall]

end Alike

/-- Requests leave the roots that their unions alone would leave. -/
theorem WF.unions_serve (h : u.WF) {requests : List Request}
    (hlt : ∀ q ∈ requests, ∀ x ∈ q.elements, x < u.size) :
    Alike (u.unions (requests.filterMap Request.pair?)) (u.serve requests).2 := by
  induction requests generalizing u with
  | nil => exact .refl h
  | cons q requests ih =>
    have hq := hlt q List.mem_cons_self
    have hrest : ∀ q ∈ requests, ∀ x ∈ q.elements, x < u.size :=
      fun q' hq' => hlt q' (List.mem_cons_of_mem _ hq')
    cases hpair : q.pair? with
    | none =>
      rw [List.filterMap_cons_none hpair]
      -- The later requests are served in another forest with the same roots.
      exact (ih h hrest).trans ((h.reply_query hpair).serve h hrest).2
    | some e =>
      obtain ⟨hwf, hsize⟩ := h.wf_reply hq
      rw [List.filterMap_cons_some hpair]
      obtain rfl := Request.eq_union_of_pair? hpair
      exact ih hwf (hsize ▸ hrest)

end Requests

section Closure

open Relation (EqvGen)

variable {n : Nat} {pairs : List (Nat × Nat)}

/-- The elements below `n` that a chain of pairs links with `x`. -/
def classOf (n : Nat) (pairs : List (Nat × Nat)) (x : Nat) : Set Nat :=
  {y | y < n ∧ EqvGen (fun a b => (a, b) ∈ pairs) x y}

def classes (n : Nat) (pairs : List (Nat × Nat)) : Set (Set Nat) :=
  {c | ∃ x < n, c = classOf n pairs x}

/-- What is asked of `u` is answered by the classes of the elements below `n` that chains of
pairs link. -/
structure Closes (u : UnionFind) (n : Nat) (pairs : List (Nat × Nat)) : Prop where
  size : u.size = n
  /-- Both loops of a search end, without leaving the array. All other requests search in
  forests that such searches left. -/
  loops : ∀ x < n, Ascends u.parent x (u.find x).1 ∧
    Shortens (u.find x).1 u.parent x (u.find x).2.parent
  connected : ∀ x < n, ∀ y < n,
    (u.connected x y).1 = true ↔ EqvGen (fun a b => (a, b) ∈ pairs) x y
  /-- A class has a member in common that is found from every member. -/
  find : ∀ x < n, (u.find x).1 ∈ classOf n pairs x ∧
    ∀ y ∈ classOf n pairs x, (u.find y).1 = (u.find x).1
  /-- A request that unites nothing changes no later reply. -/
  query : ∀ q : Request, q.pair? = none → ∀ later : List Request,
    (∀ q' ∈ later, ∀ x ∈ q'.elements, x < n) →
      ((u.reply q).2.serve later).1 = (u.serve later).1
  setCount : u.setCount = (classes n pairs).ncard
  /-- A union of two classes leaves one set less, any other union as many. -/
  union : ∀ x < n, ∀ y < n,
    (EqvGen (fun a b => (a, b) ∈ pairs) x y → (u.union x y).2.setCount = u.setCount) ∧
      (¬EqvGen (fun a b => (a, b) ∈ pairs) x y → (u.union x y).2.setCount + 1 = u.setCount)
  /-- The groups are the classes of more than one member. -/
  groups : ∀ c : Set Nat,
    (∃ g ∈ u.groups, {x | x ∈ g} = c) ↔ c ∈ classes n pairs ∧ 1 < c.ncard
  ascending : ∀ g ∈ u.groups, g.Pairwise (· < ·)
  /-- Groups are ordered by their smallest members. -/
  ordered : u.groups.Pairwise fun g g' => ∃ a ∈ g, ∀ b ∈ g', a < b
  rank : ∀ x < n, u.rank.getD (u.find x).1 0 ≤ Nat.log2 (classOf n pairs x).ncard
  /-- A rank fits in eight bits as long as the elements can be counted with 256 bits. -/
  rank_lt : n < 2 ^ 256 → ∀ x < n, u.rank.getD x 0 < 256

section

variable (h : u.Tallied) (hsize : u.size = n)
  (hroot : ∀ z w, u.root z = u.root w ↔ EqvGen (fun a b => (a, b) ∈ pairs) z w)

include hsize hroot

theorem coe_tree (x : Nat) : (u.tree (u.root x) : Set Nat) = classOf n pairs x := by
  ext y
  rw [Finset.mem_coe, mem_tree, hsize, eq_comm, hroot]
  rfl

include h

theorem classes_eq : classes n pairs = (fun r => (u.tree r : Set Nat)) '' u.roots := by
  ext c
  constructor
  · rintro ⟨x, hx, rfl⟩
    have hlt := h.wf.root_lt (hsize ▸ hx : x < u.size)
    exact ⟨u.root x, mem_roots.mpr ⟨hlt, h.wf.root_root x⟩, coe_tree hsize hroot x⟩
  · rintro ⟨r, hr, rfl⟩
    obtain ⟨hlt, hself⟩ := mem_roots.mp hr
    refine ⟨r, hsize ▸ hlt, ?_⟩
    rw [← coe_tree hsize hroot, hself]

theorem ncard_classes : (classes n pairs).ncard = u.setCount := by
  have hinj : Set.InjOn (fun r => (u.tree r : Set Nat)) u.roots := by
    intro r hr s _ heq
    have hmem : r ∈ u.tree r := mem_tree.mpr (mem_roots.mp hr)
    rw [Finset.coe_inj.mp heq] at hmem
    exact (mem_roots.mp hr).2.symm.trans (mem_tree.mp hmem).2
  rw [classes_eq h hsize hroot, hinj.ncard_image, Set.ncard_coe_finset, h.setCount]

theorem exists_group_iff (c : Set Nat) :
    (∃ g ∈ u.groups, {x | x ∈ g} = c) ↔ c ∈ classes n pairs ∧ 1 < c.ncard := by
  have htree : ∀ r, {x | x ∈ members u.root u.size r} = (u.tree r : Set Nat) := by
    intro r
    ext x
    simp [mem_members]
  rw [classes_eq h hsize hroot]
  constructor
  · rintro ⟨g, hg, rfl⟩
    obtain ⟨hlong, r, rfl⟩ := h.wf.mem_groups.mp hg
    rw [htree, Set.ncard_coe_finset, card_tree]
    refine ⟨⟨r, ?_, rfl⟩, hlong⟩
    obtain ⟨x, hx⟩ := List.exists_mem_of_length_pos (Nat.zero_lt_of_lt hlong)
    obtain ⟨hlt, rfl⟩ := mem_members.mp hx
    exact mem_roots.mpr ⟨h.wf.root_lt hlt, h.wf.root_root x⟩
  · rintro ⟨⟨r, -, rfl⟩, hlong⟩
    rw [Set.ncard_coe_finset, card_tree] at hlong
    exact ⟨_, h.wf.mem_groups.mpr ⟨hlong, r, rfl⟩, htree r⟩

theorem Tallied.closes : Closes u n pairs where
  size := hsize
  loops x hx := h.wf.find_loops (hsize ▸ hx)
  connected x _ y _ := by rw [(h.wf.connected x y).1, decide_eq_true_iff, hroot]
  find x hx := by
    refine ⟨⟨hsize ▸ h.wf.root_lt (hsize ▸ hx), ?_⟩, fun y hy => ((hroot x y).mpr hy.2).symm⟩
    exact (hroot _ _).mp (h.wf.root_root x).symm
  query q hq later hlater :=
    ((h.wf.reply_query hq).serve h.wf (hsize ▸ hlater)).1
  setCount := (ncard_classes h hsize hroot).symm
  union x hx y hy := by
    rw [← hsize] at hx hy
    obtain ⟨-, -, -, -, hcount⟩ := h.wf.union_spec hx hy
    rw [hcount, ← hroot]
    refine ⟨fun heq => if_pos heq, fun hne => ?_⟩
    have hpos : 0 < u.roots.card :=
      Finset.card_pos.mpr ⟨_, mem_roots.mpr ⟨h.wf.root_lt hx, h.wf.root_root x⟩⟩
    rw [if_neg hne, h.setCount]
    omega
  groups := exists_group_iff h hsize hroot
  ascending g hg := by
    obtain ⟨-, r, rfl⟩ := h.wf.mem_groups.mp hg
    exact pairwise_members _ _ _
  ordered := h.wf.pairwise_groups
  rank x hx := by
    have hmem : u.root x ∈ u.roots :=
      mem_roots.mpr ⟨h.wf.root_lt (hsize ▸ hx), h.wf.root_root x⟩
    rw [← coe_tree hsize hroot, Set.ncard_coe_finset]
    exact h.rank_le_log2 hmem
  rank_lt hn x hx := by
    have hpow := h.pow_rank_le (hsize ▸ hx : x < u.size)
    exact (Nat.pow_lt_pow_iff_right (by omega)).mp (Nat.lt_of_le_of_lt hpow (hsize ▸ hn))

end

/-- Whatever is asked, each reply is that of the classes which the pairs united before it
generate. -/
theorem serve_closes (n : Nat) (requests : List Request)
    (hlt : ∀ q ∈ requests, ∀ x ∈ q.elements, x < n) :
    Closes ((singletons n).serve requests).2 n (requests.filterMap Request.pair?) := by
  have hsize := size_singletons n
  have hpairs : ∀ e ∈ requests.filterMap Request.pair?, e.1 < n ∧ e.2 < n := by
    intro e he
    obtain ⟨q, hq, hpair⟩ := List.mem_filterMap.mp he
    obtain rfl := Request.eq_union_of_pair? hpair
    exact ⟨hlt _ hq e.1 (by simp [Request.elements]), hlt _ hq e.2 (by simp [Request.elements])⟩
  have halike := (wf_singletons n).unions_serve (hsize.symm ▸ hlt)
  obtain ⟨-, hsizes, hroot⟩ := unions_singletons hpairs
  have htallied := (tallied_singletons n).unions (hsize.symm ▸ hpairs)
  refine (halike.tallied htallied).closes (halike.size.trans hsizes) fun z w => ?_
  rw [halike.root, halike.root, hroot]

theorem serve_closes_six :
    Closes ((singletons 6).serve
      [.union 0 1, .connected 2 0, .union 4 5, .groups, .union 1 5, .find 3, .union 0 5]).2
      6 [(0, 1), (4, 5), (1, 5), (0, 5)] :=
  serve_closes 6 [.union 0 1, .connected 2 0, .union 4 5, .groups, .union 1 5, .find 3, .union 0 5]
    (by decide)

end Closure

end DeltaDebugging.UnionFind
