import DeltaDebugging.Proofs.Snapshot.Transaction
import DeltaDebugging.Text.Document
import Mathlib.Data.List.Nodup
import Mathlib.Data.List.Range

/-!
# Lines, blocks and marks

The blocks of a text, one after another, are exactly its lines that are not blank, so no
line is in two of them. Deleting only thins out the marks: what is left of a document is
determined by a set of lines, and deletions are put together by putting the sets together.
-/
namespace DeltaDebugging

namespace Block

theorem lines_eq (b : Block) : b.lines = List.range' b.start (b.stop - b.start) :=
  (List.range'_eq_map_range ..).symm

theorem lines_concat {first index : Nat} (h : first ≤ index) :
    (Block.mk first (index + 1)).lines = (Block.mk first index).lines ++ [index] := by
  rw [lines_eq, lines_eq, Nat.sub_add_comm h, List.range'_concat]
  simp only [Nat.one_mul]
  rw [Nat.add_sub_cancel' h]

end Block

namespace Document

section Blocks

/-- The lines from `index` on that are not blank belong to the blocks among them, besides those
of the block that was begun before. -/
theorem flatMap_lines_blocksFrom {index : Nat} {start : Option Nat} (lines : List String)
    (hstart : ∀ first ∈ start, first ≤ index) :
    (blocksFrom index start lines).flatMap Block.lines =
      (start.map fun first => (Block.mk first index).lines).getD [] ++
        lines.findIdxs (fun line => !Text.isBlank line) index := by
  induction lines generalizing index start with
  | nil => cases start <;> simp [blocksFrom]
  | cons line rest ih =>
    unfold blocksFrom
    cases hblank : Text.isBlank line with
    | false =>
      cases start with
      | none =>
        rw [ih (by simp)]
        simp [hblank, Block.lines_eq]
      | some first =>
        have hle : first ≤ index := hstart first rfl
        rw [ih (by simpa using Nat.le_succ_of_le hle)]
        simp [hblank, Block.lines_concat hle]
    | true =>
      cases start with
      | none =>
        rw [ih (by simp)]
        simp [hblank]
      | some first =>
        rw [List.flatMap_cons, ih (by simp)]
        simp [hblank]

theorem flatMap_lines_parse (text : String) : (parse text).blocks.flatMap Block.lines =
    (Text.lines text).findIdxs fun line => !Text.isBlank line :=
  flatMap_lines_blocksFrom _ (by simp)

/-- Before any deletion the lines that are not blank are alive. -/
theorem isAlive_parse {text : String} {i : Nat} : (parse text).isAlive i = true ↔
    ∃ line, (Text.lines text)[i]? = some line ∧ Text.isBlank line = false := by
  simp only [isAlive, parse, List.getD_eq_getElem?_getD, List.getElem?_map]
  cases (Text.lines text)[i]? <;> simp

theorem isAlive_parse_iff_mem {text : String} {i : Nat} :
    (parse text).isAlive i = true ↔ i ∈ (parse text).blocks.flatMap Block.lines := by
  rw [isAlive_parse, flatMap_lines_parse, List.mem_findIdxs_iff_exists_getElem_pos]
  simp [List.getElem?_eq_some_iff]

/-- No line is in two blocks, every line of a block has a mark, and only lines of blocks are
marked alive. -/
structure Laid (d : Document) : Prop where
  nodup : (d.blocks.flatMap Block.lines).Nodup
  lt_of_mem : ∀ i ∈ d.blocks.flatMap Block.lines, i < d.alive.length
  mem_of_isAlive : ∀ i, d.isAlive i = true → i ∈ d.blocks.flatMap Block.lines

theorem parse_laid (text : String) : (parse text).Laid where
  nodup := by
    rw [flatMap_lines_parse]
    exact List.nodup_findIdxs
  lt_of_mem i hi := by
    rw [flatMap_lines_parse, List.mem_findIdxs_iff_exists_getElem_pos] at hi
    obtain ⟨hi, -⟩ := hi
    simpa [parse] using hi
  mem_of_isAlive i hi := isAlive_parse_iff_mem.mp hi

theorem Laid.block_inj {d : Document} (hd : d.Laid) {i j line : Nat} {b b' : Block}
    (hb : d.blocks[i]? = some b) (hb' : d.blocks[j]? = some b') (hline : line ∈ b.lines)
    (hline' : line ∈ b'.lines) : i = j := by
  obtain ⟨hi, rfl⟩ := List.getElem?_eq_some_iff.mp hb
  obtain ⟨hj, rfl⟩ := List.getElem?_eq_some_iff.mp hb'
  have hdisjoint := List.pairwise_iff_getElem.mp (List.nodup_flatMap.mp hd.nodup).2
  rcases Nat.lt_trichotomy i j with hlt | heq | hlt
  · exact absurd hline' (hdisjoint i j hi hj hlt hline)
  · exact heq
  · exact absurd hline (hdisjoint j i hj hi hlt hline')

end Blocks

section Marks

theorem lt_of_isAlive {d : Document} {i : Nat} (h : d.isAlive i = true) : i < d.alive.length := by
  by_contra hge
  simp [isAlive, hge] at h

/-- Only the lines in `p` stay alive. -/
def select (d : Document) (p : Nat → Bool) : Document :=
  { d with alive := d.alive.mapIdx fun i alive => alive && p i }

variable {d : Document} {p q : Nat → Bool}

theorem kill_eq_select (d : Document) (gone : List Nat) :
    d.kill gone = d.select fun i => !gone.contains i := rfl

@[simp] theorem length_alive_select (d : Document) (p : Nat → Bool) :
    (d.select p).alive.length = d.alive.length := List.length_mapIdx

@[simp] theorem isAlive_select (d : Document) (p : Nat → Bool) (i : Nat) :
    (d.select p).isAlive i = (d.isAlive i && p i) := by
  simp only [isAlive, select, List.getD_eq_getElem?_getD, List.getElem?_mapIdx]
  cases d.alive[i]? <;> simp

theorem select_select (d : Document) (p q : Nat → Bool) :
    (d.select p).select q = d.select fun i => p i && q i := by
  simp [select, List.mapIdx_mapIdx, Function.comp_def, Bool.and_assoc]

/-- What the selection says of lines that are gone does not matter. -/
theorem select_congr (h : ∀ i, d.isAlive i = true → p i = q i) : d.select p = d.select q := by
  unfold select
  congr 1
  apply List.ext_getElem (by simp)
  intro i hi hi'
  have hlt : i < d.alive.length := by simpa using hi
  have halive : d.isAlive i = d.alive[i] := by simp [isAlive, hlt]
  simp only [List.getElem_mapIdx]
  cases hmark : d.alive[i] with
  | false => rfl
  | true => rw [h i (halive.trans hmark)]

theorem select_eq_self (h : ∀ i, d.isAlive i = true → p i = true) : d.select p = d := by
  have hall : d.select p = d.select fun _ => true := select_congr h
  have halive : d.alive.mapIdx (fun _ alive => alive) = d.alive :=
    List.ext_getElem (by simp) (by simp)
  rw [hall]
  simp only [select, Bool.and_true, halive]

theorem aliveLines_eq_length {lines : List Nat} (hnodup : lines.Nodup)
    (h : ∀ i, d.isAlive i = true ↔ i ∈ lines) : d.aliveLines = lines.length := by
  have hperm : lines.Perm ((List.range d.alive.length).filter d.isAlive) := by
    rw [List.perm_ext_iff_of_nodup hnodup (List.nodup_range.filter _)]
    intro i
    rw [← h, List.mem_filter, List.mem_range]
    exact ⟨fun halive => ⟨lt_of_isAlive halive, halive⟩, And.right⟩
  have halive : d.alive = (List.range d.alive.length).map d.isAlive :=
    List.ext_getElem (by simp) fun i hi _ => by simp [isAlive, hi]
  rw [hperm.length_eq, ← List.countP_eq_length_filter, aliveLines, List.count]
  conv_lhs => rw [halive, List.countP_map]
  simp [Function.comp_def]

end Marks

section Units

def unitLines (d : Document) : TextUnit → List Nat
  | .block i => (d.blocks[i]?.map Block.lines).getD []
  | .line i => [i]

def covered (d : Document) (units : List TextUnit) : List Nat := units.flatMap d.unitLines

/-- The document with no other lines than those of some units. -/
def keep (d : Document) (units : List TextUnit) : Document :=
  d.select fun i => (d.covered units).contains i

def Has (d : Document) : TextUnit → Prop
  | .block i => i < d.blocks.length
  | .line i => i < d.alive.length

variable {d : Document} {units : List TextUnit}

theorem mem_covered {i : Nat} : i ∈ d.covered units ↔ ∃ u ∈ units, i ∈ d.unitLines u :=
  List.mem_flatMap

theorem covered_subset {left : List TextUnit} (h : left ⊆ units) :
    d.covered left ⊆ d.covered units := fun i hi => by
  obtain ⟨u, hu, hline⟩ := mem_covered.mp hi
  exact mem_covered.mpr ⟨u, h hu, hline⟩

theorem covered_cons (d : Document) (u : TextUnit) (units : List TextUnit) :
    d.covered (u :: units) = d.unitLines u ++ d.covered units := rfl

theorem has_select (p : Nat → Bool) {u : TextUnit} : (d.select p).Has u ↔ d.Has u := by
  cases u with
  | block i => exact Iff.rfl
  | line i => simp [Has]

@[simp] theorem covered_kill (gone : List Nat) (units : List TextUnit) :
    (d.kill gone).covered units = d.covered units := rfl

theorem delete_eq {u : TextUnit} (hu : d.Has u) : d.delete u = .ok (d.kill (d.unitLines u)) := by
  cases u with
  | block i =>
    have hi : d.blocks[i]? = some d.blocks[i] := List.getElem?_eq_getElem hu
    simp [delete, unitLines, hi]
  | line i => exact if_pos hu

theorem delete_error {u : TextUnit} (hu : ¬ d.Has u) : ∃ cause, d.delete u = .error cause := by
  cases u with
  | block i =>
    have hi : d.blocks[i]? = none := List.getElem?_eq_none (Nat.le_of_not_lt hu)
    exact ⟨"no block " ++ toString i, by simp only [delete, hi]⟩
  | line i => exact ⟨_, if_neg hu⟩

theorem kill_kill (d : Document) (gone gone' : List Nat) :
    (d.kill gone).kill gone' = d.kill (gone ++ gone') := by
  rw [kill_eq_select, kill_eq_select, select_select]
  exact select_congr fun i _ => by simp

theorem deleteAll_eq (h : ∀ u ∈ units, d.Has u) :
    d.deleteAll units = (d.kill (d.covered units), .ok ()) := by
  induction units generalizing d with
  | nil =>
    rw [deleteAll, kill_eq_select, select_eq_self (by simp [covered])]
  | cons u units ih =>
    obtain ⟨hu, hunits⟩ := List.forall_mem_cons.mp h
    rw [deleteAll, delete_eq hu]
    dsimp only
    rw [ih (d := d.kill (d.unitLines u)) fun u hu => (has_select _).mpr (hunits u hu), covered_kill,
      kill_kill, covered_cons]

/-- Deletions that fail halfway have marked lines as gone, too. -/
theorem exists_deleteAll (d : Document) (units : List TextUnit) :
    ∃ gone, (d.deleteAll units).1 = d.kill gone := by
  induction units generalizing d with
  | nil => exact ⟨[], (select_eq_self (by simp)).symm⟩
  | cons u units ih =>
    unfold deleteAll
    by_cases hu : d.Has u
    · rw [delete_eq hu]
      obtain ⟨gone, hgone⟩ := ih (d.kill (d.unitLines u))
      exact ⟨d.unitLines u ++ gone, by rw [hgone, kill_kill]⟩
    · obtain ⟨cause, hcause⟩ := delete_error hu
      rw [hcause]
      exact ⟨[], (select_eq_self (by simp)).symm⟩

end Units

section Transactions

variable {τ : Type}

theorem run_lens (units : List TextUnit) (interrupted : Document × τ → Bool) (d : Document)
    (t : τ) : (lens units).run interrupted (d, t) =
      (.done (d.deleteAll units).2, (d.deleteAll units).1, t) := rfl

/-- Everything that deletions do to a document can be undone by taking up its marks again. -/
theorem checkpointing_restores : checkpointing.Restores (lens : Lens Document τ TextUnit) := by
  refine fun d => ⟨fun saved h => ?_, fun w ⟨units, t, interrupted, hw⟩ saved h => ?_⟩
  · cases h
    rfl
  · obtain ⟨gone, hgone⟩ := d.exists_deleteAll units
    cases h
    rw [run_lens, hgone] at hw
    rw [← hw]
    rfl

theorem checkpointing_takes (d : Document) : checkpointing.Takes d := ⟨d.alive, rfl⟩

end Transactions

section Levels

variable {d : Document} {units left gone : List TextUnit}

/-- Units that can be deleted independently: no line is in two of them. -/
structure IsLevel (d : Document) (units : List TextUnit) : Prop where
  has : ∀ u ∈ units, d.Has u
  apart : ∀ u ∈ units, ∀ v ∈ units, ∀ i ∈ d.unitLines u, i ∈ d.unitLines v → u = v

theorem IsLevel.subset (h : d.IsLevel units) (hsub : left ⊆ units) : d.IsLevel left where
  has u hu := h.has u (hsub hu)
  apart u hu v hv := h.apart u (hsub hu) v (hsub hv)

theorem keep_congr (h : ∀ i, d.isAlive i = true → (i ∈ d.covered units ↔ i ∈ d.covered left)) :
    d.keep units = d.keep left :=
  select_congr fun i hi => by simp [h i hi]

theorem isAlive_keep {i : Nat} :
    (d.keep units).isAlive i = true ↔ d.isAlive i = true ∧ i ∈ d.covered units := by
  simp [keep]

/-- Deleting all but some of the units of a level leaves the lines of those, whatever had been
deleted of the others before. -/
theorem IsLevel.mem_covered_left {kept : List TextUnit} (h : d.IsLevel units)
    (hgone : ∀ u, u ∈ gone ↔ u ∈ units ∧ u ∉ left) (hkept : kept ⊆ units) (hleft : left ⊆ kept)
    {i : Nat} : i ∈ d.covered left ↔ i ∈ d.covered kept ∧ i ∉ d.covered gone := by
  simp only [mem_covered]
  constructor
  · rintro ⟨u, hu, hi⟩
    -- A deleted unit with this line would be the retained one.
    refine ⟨⟨u, hleft hu, hi⟩, fun ⟨v, hv, hi'⟩ => ?_⟩
    obtain ⟨hunits, hnot⟩ := (hgone v).mp hv
    exact hnot (h.apart u (hkept (hleft hu)) v hunits i hi hi' ▸ hu)
  · rintro ⟨⟨u, hu, hi⟩, hnot⟩
    by_cases hl : u ∈ left
    · exact ⟨u, hl, hi⟩
    · exact absurd ⟨u, (hgone u).mpr ⟨hkept hu, hl⟩, hi⟩ hnot

theorem IsLevel.kill_keep {kept : List TextUnit} (h : d.IsLevel units)
    (hgone : ∀ u, u ∈ gone ↔ u ∈ units ∧ u ∉ left) (hkept : kept ⊆ units) (hleft : left ⊆ kept) :
    (d.keep kept).kill (d.covered gone) = d.keep left := by
  rw [keep, kill_eq_select, select_select]
  refine select_congr fun i _ => ?_
  rw [Bool.eq_iff_iff, Bool.and_eq_true, Bool.not_eq_true', ← Bool.not_eq_true]
  simp only [List.contains_iff_mem]
  exact (h.mem_covered_left hgone hkept hleft).symm

theorem mem_blockUnits {u : TextUnit} :
    u ∈ d.blockUnits ↔
      ∃ i b, u = .block i ∧ d.blocks[i]? = some b ∧ ∃ line ∈ b.lines, d.isAlive line = true := by
  simp only [blockUnits, List.mem_map, List.mem_filter, List.mem_range]
  constructor
  · rintro ⟨i, ⟨hi, hany⟩, rfl⟩
    refine ⟨i, d.blocks[i], rfl, List.getElem?_eq_getElem hi, ?_⟩
    simpa [hi] using hany
  · rintro ⟨i, b, rfl, hb, line, hline, halive⟩
    refine ⟨i, ⟨(List.getElem?_eq_some_iff.mp hb).1, ?_⟩, rfl⟩
    rw [hb]
    simpa using ⟨line, hline, halive⟩

theorem Laid.isLevel_blockUnits (hd : d.Laid) : d.IsLevel d.blockUnits where
  has u hu := by
    obtain ⟨i, b, rfl, hb, -⟩ := mem_blockUnits.mp hu
    exact (List.getElem?_eq_some_iff.mp hb).1
  apart u hu v hv line hline hline' := by
    obtain ⟨i, b, rfl, hb, -⟩ := mem_blockUnits.mp hu
    obtain ⟨j, b', rfl, hb', -⟩ := mem_blockUnits.mp hv
    simp only [unitLines, hb, hb', Option.map_some, Option.getD_some] at hline hline'
    rw [hd.block_inj hb hb' hline hline']

/-- Every line that is alive is in one of the blocks of the first level. -/
theorem Laid.mem_covered_blockUnits (hd : d.Laid) {line : Nat} (halive : d.isAlive line = true) :
    line ∈ d.covered d.blockUnits := by
  obtain ⟨b, hb, hline⟩ := List.mem_flatMap.mp (hd.mem_of_isAlive line halive)
  obtain ⟨i, hi⟩ := List.getElem?_of_mem hb
  exact mem_covered.mpr ⟨.block i, mem_blockUnits.mpr ⟨i, b, rfl, hi, line, hline, halive⟩, by
    simpa [unitLines, hi] using hline⟩

theorem Laid.keep_blockUnits (hd : d.Laid) : d.keep d.blockUnits = d :=
  select_eq_self fun _ halive => List.contains_iff_mem.mpr (hd.mem_covered_blockUnits halive)

theorem covered_blockUnits_subset : d.covered d.blockUnits ⊆ d.blocks.flatMap Block.lines := by
  intro line hline
  obtain ⟨u, hu, hline⟩ := mem_covered.mp hline
  obtain ⟨i, b, rfl, hb, -⟩ := mem_blockUnits.mp hu
  exact List.mem_flatMap.mpr ⟨b, List.mem_of_getElem? hb, by simpa [unitLines, hb] using hline⟩

theorem mem_children {u v : TextUnit} :
    v ∈ d.children u ↔ (∃ i, u = .block i) ∧ ∃ line ∈ d.unitLines u, v = .line line := by
  cases u with
  | block i => simp [children, unitLines, eq_comm]
  | line i => simp [children]

theorem eq_line_of_mem_children {v : TextUnit} (h : v ∈ units.flatMap d.children) :
    ∃ u ∈ units, ∃ i ∈ d.unitLines u, v = .line i := by
  obtain ⟨u, hu, hv⟩ := List.mem_flatMap.mp h
  exact ⟨u, hu, (mem_children.mp hv).2⟩

/-- Units with parts are not lines. -/
theorem children_lines (h : ∀ u ∈ units, ∃ i, u = .line i) : units.flatMap d.children = [] := by
  rw [List.flatMap_eq_nil_iff]
  intro u hu
  obtain ⟨i, rfl⟩ := h u hu
  rfl

theorem Laid.isLevel_children (hd : d.Laid) (units : List TextUnit) :
    d.IsLevel (units.flatMap d.children) where
  has v hv := by
    obtain ⟨u, -, hv⟩ := List.mem_flatMap.mp hv
    obtain ⟨⟨i, rfl⟩, line, hline, rfl⟩ := mem_children.mp hv
    cases hb : d.blocks[i]? with
    | none => simp [unitLines, hb] at hline
    | some b =>
      rw [unitLines, hb] at hline
      exact hd.lt_of_mem line (List.mem_flatMap.mpr ⟨b, List.mem_of_getElem? hb, hline⟩)
  apart v hv v' hv' i hi hi' := by
    obtain ⟨_, -, line, -, rfl⟩ := eq_line_of_mem_children hv
    obtain ⟨_, -, line', -, rfl⟩ := eq_line_of_mem_children hv'
    rw [← List.mem_singleton.mp hi, ← List.mem_singleton.mp hi']

theorem mem_covered_children (hunits : ∀ u ∈ units, ∃ i, u = .block i) {i : Nat} :
    i ∈ d.covered (units.flatMap d.children) ↔ i ∈ d.covered units := by
  simp only [mem_covered, List.mem_flatMap, mem_children]
  constructor
  · rintro ⟨-, ⟨u, hu, -, line, hline, rfl⟩, hi⟩
    exact ⟨u, hu, List.mem_singleton.mp hi ▸ hline⟩
  · rintro ⟨u, hu, hi⟩
    exact ⟨.line i, ⟨u, hu, hunits u hu, i, hi, rfl⟩, List.mem_singleton.mpr rfl⟩

end Levels

end Document

end DeltaDebugging
