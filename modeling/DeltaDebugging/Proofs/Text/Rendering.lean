import DeltaDebugging.Proofs.Text.Document
import Mathlib.Data.List.GetD
import Mathlib.Data.List.Sort

/-!
# Documents written and read back

What is written of a document, read back, is the document without the lines that were deleted,
in the blocks of which a line is left. Only the ends of lines may differ: a carriage return that
ends a line is content, but with a line feed after it it is read as part of the line's end.
-/
namespace DeltaDebugging

namespace Text

section Lines

variable {line : List Char} {l : String} {ls ls' : List String} {closed : Bool}

theorem linesFrom_append (begun : List Char) (h : '\n' ∉ line) (rest : List Char) :
    linesFrom begun (line ++ rest) = linesFrom (line.reverse ++ begun) rest := by
  induction line generalizing begun with
  | nil => rfl
  | cons c line ih =>
    obtain ⟨hc, hline⟩ := not_or.mp (mt List.mem_cons.mpr h)
    rw [List.cons_append, linesFrom, if_neg (Ne.symm hc), ih _ hline, List.reverse_cons,
      List.append_assoc]
    rfl

theorem linesFrom_line (h : '\n' ∉ line) (rest : List Char) :
    linesFrom [] (line ++ '\n' :: rest) = dropReturn line :: linesFrom [] rest := by
  rw [linesFrom_append [] h, List.append_nil, linesFrom, if_pos rfl, List.reverse_reverse]

theorem linesFrom_last (h : '\n' ∉ line) (hne : line ≠ []) : linesFrom [] line = [line] := by
  have happend := linesFrom_append [] h []
  rw [List.append_nil, List.append_nil] at happend
  rw [happend, linesFrom, if_neg (by simpa using hne), List.reverse_reverse]

theorem newline_not_mem_of_mem_linesFrom {begun text : List Char} (hbegun : '\n' ∉ begun)
    (h : line ∈ linesFrom begun text) : '\n' ∉ line := by
  induction text generalizing begun with
  | nil =>
    rw [linesFrom] at h
    split at h
    · cases h
    · obtain rfl := List.mem_singleton.mp h
      simpa using hbegun
  | cons c text ih =>
    rw [linesFrom] at h
    split at h
    · rcases List.mem_cons.mp h with rfl | h
      · unfold dropReturn
        split
        · exact fun hmem => hbegun (List.mem_reverse.mp (List.dropLast_subset _ hmem))
        · simpa using hbegun
      · exact ih (by simp) h
    · next hc => exact ih (by simp [Ne.symm hc, hbegun]) h

theorem newline_not_mem_of_mem_lines {text : String} (h : l ∈ lines text) : '\n' ∉ l.toList := by
  obtain ⟨line, hline, rfl⟩ := List.mem_map.mp h
  rw [String.toList_ofList]
  exact newline_not_mem_of_mem_linesFrom (by simp) hline

/-- What is read of a line with a line feed after it. -/
def unreturned (l : String) : String := String.ofList (dropReturn l.toList)

theorem unreturned_eq_self_iff : unreturned l = l ↔ l.toList.getLast? ≠ some '\r' := by
  rw [unreturned, dropReturn]
  split
  · next h =>
    obtain ⟨init, hinit⟩ := List.getLast?_eq_some_iff.mp h
    refine iff_of_false (fun heq => ?_) (not_not.mpr h)
    have htoList := congrArg String.toList heq
    rw [String.toList_ofList, hinit, List.dropLast_concat] at htoList
    exact absurd (congrArg List.length htoList) (by simp)
  · next h => exact iff_of_true String.ofList_toList h

theorem isBlank_unreturned (l : String) : isBlank (unreturned l) = isBlank l := by
  rw [isBlank, isBlank, unreturned, String.toList_ofList, dropReturn]
  split
  · next h =>
    obtain ⟨init, hinit⟩ := List.getLast?_eq_some_iff.mp h
    rw [hinit, List.dropLast_concat, List.all_append]
    simp [isSpace]
  · rfl

/-- What is read of lines that were written one under another, with a line feed after the last
one if they are `closed`. -/
def reread (closed : Bool) : List String → List String
  | [] => []
  | [l] => [if closed then unreturned l else l]
  | l :: l' :: ls => unreturned l :: reread closed (l' :: ls)

/-- The lines that have a line feed after them. -/
def followed (closed : Bool) (ls : List String) : List String := if closed then ls else ls.dropLast

theorem reread_cons (hls : ls ≠ []) :
    reread closed (l :: ls) = unreturned l :: reread closed ls := by
  cases ls with
  | nil => exact absurd rfl hls
  | cons l' ls => rfl

theorem reread_append (hls : ls' ≠ []) :
    reread closed (ls ++ ls') = reread true ls ++ reread closed ls' := by
  induction ls with
  | nil => rfl
  | cons l ls ih =>
    rw [List.cons_append, reread_cons (by simp [hls]), ih]
    cases ls with
    | nil => rfl
    | cons l' ls => rfl

@[simp] theorem length_reread (closed : Bool) (ls : List String) :
    (reread closed ls).length = ls.length := by
  induction ls with
  | nil => rfl
  | cons l ls ih =>
    cases ls with
    | nil => rfl
    | cons l' ls => exact congrArg (· + 1) ih

theorem isBlank_of_mem_reread (h : l ∈ reread closed ls) : ∃ l' ∈ ls, isBlank l = isBlank l' := by
  induction ls with
  | nil => cases h
  | cons l' ls ih =>
    cases ls with
    | nil =>
      obtain rfl := List.mem_singleton.mp h
      refine ⟨l', List.mem_cons_self, ?_⟩
      split
      · exact isBlank_unreturned l'
      · rfl
    | cons l'' ls =>
      rcases List.mem_cons.mp h with rfl | h
      · exact ⟨l', List.mem_cons_self, isBlank_unreturned l'⟩
      · obtain ⟨m, hm, heq⟩ := ih h
        exact ⟨m, List.mem_cons_of_mem _ hm, heq⟩

theorem reread_eq_self_iff :
    reread closed ls = ls ↔ ∀ l ∈ followed closed ls, l.toList.getLast? ≠ some '\r' := by
  induction ls with
  | nil => cases closed <;> simp [reread, followed]
  | cons l ls ih =>
    cases ls with
    | nil => cases closed <;> simp [reread, followed, unreturned_eq_self_iff]
    | cons l' ls =>
      have hcons : followed closed (l :: l' :: ls) = l :: followed closed (l' :: ls) := by
        cases closed <;> rfl
      rw [hcons, reread, List.cons_eq_cons, List.forall_mem_cons, unreturned_eq_self_iff, ih]

/-- Lines written one under another are read back, up to carriage returns at their ends. -/
theorem lines_intercalate (hls : ∀ l ∈ ls, '\n' ∉ l.toList)
    (hlast : ∀ l, ls.getLast? = some l → l ≠ "") (hne : ls ≠ []) :
    lines (String.intercalate "\n" ls ++ if closed then "\n" else "") = reread closed ls := by
  induction ls with
  | nil => exact absurd rfl hne
  | cons l ls ih =>
    obtain ⟨hl, hls⟩ := List.forall_mem_cons.mp hls
    cases ls with
    | nil =>
      have hnil : l.toList ≠ [] := by simpa using hlast l rfl
      cases closed with
      | false => simp [lines, reread, linesFrom_last hl hnil]
      | true => simp [lines, reread, linesFrom_line hl [], linesFrom, unreturned]
    | cons l' ls =>
      have hrest := ih hls (fun m hm => hlast m (by rwa [List.getLast?_cons_cons])) (by simp)
      rw [String.intercalate_cons_cons, reread, ← hrest, lines, lines]
      simp only [String.toList_append, List.append_assoc]
      rw [show ("\n" : String).toList = ['\n'] from rfl, List.singleton_append, linesFrom_line hl]
      rfl

/-- Lines written one under another end as the last of them does. -/
theorem getLast?_intercalate (hlast : ls.getLast? = some l) (hl : l ≠ "") :
    (String.intercalate "\n" ls).toList.getLast? = l.toList.getLast? := by
  obtain ⟨init, rfl⟩ := List.getLast?_eq_some_iff.mp hlast
  have hnil : l.toList ≠ [] := by simpa using hl
  rcases eq_or_ne init [] with rfl | hinit
  · rw [List.nil_append, String.intercalate_singleton]
  · rw [String.intercalate_append_of_ne_nil hinit (by simp), String.intercalate_singleton,
      String.toList_append, List.getLast?_append_of_ne_nil _ hnil]

end Lines

section Groups

variable {b : List String} {groups : List (List String)} {closed : Bool}

/-- Blocks of lines one under another, with a blank line between two of them. -/
def spaced (groups : List (List String)) : List String := [""].intercalate groups

theorem spaced_singleton (b : List String) : spaced [b] = b := by
  simp [spaced, List.intercalate]

theorem spaced_cons (h : groups ≠ []) : spaced (b :: groups) = b ++ "" :: spaced groups := by
  obtain ⟨b', groups, rfl⟩ := List.exists_cons_of_ne_nil h
  rw [spaced, List.intercalate_cons_cons, List.append_assoc]
  rfl

theorem spaced_ne_nil (hne : groups ≠ []) (h : ∀ b ∈ groups, b ≠ []) : spaced groups ≠ [] := by
  obtain ⟨b, groups, rfl⟩ := List.exists_cons_of_ne_nil hne
  rcases eq_or_ne groups [] with rfl | hgroups
  · rw [spaced_singleton]
    exact h b List.mem_cons_self
  · simp [spaced_cons hgroups]

theorem mem_spaced {l : String} (h : l ∈ spaced groups) : l = "" ∨ ∃ b ∈ groups, l ∈ b := by
  induction groups with
  | nil => cases h
  | cons b groups ih =>
    rcases eq_or_ne groups [] with rfl | hgroups
    · rw [spaced_singleton] at h
      exact Or.inr ⟨b, List.mem_cons_self, h⟩
    · rw [spaced_cons hgroups, List.mem_append, List.mem_cons] at h
      rcases h with h | rfl | h
      · exact Or.inr ⟨b, List.mem_cons_self, h⟩
      · exact Or.inl rfl
      · exact (ih h).imp_right fun ⟨b', hb, hl⟩ => ⟨b', List.mem_cons_of_mem _ hb, hl⟩

theorem getLast?_spaced (h : ∀ b ∈ groups, b ≠ []) {l : String}
    (hl : (spaced groups).getLast? = some l) : ∃ b ∈ groups, l ∈ b := by
  induction groups with
  | nil => cases hl
  | cons b groups ih =>
    obtain ⟨-, hrest⟩ := List.forall_mem_cons.mp h
    rcases eq_or_ne groups [] with rfl | hgroups
    · rw [spaced_singleton] at hl
      exact ⟨b, List.mem_cons_self, List.mem_of_getLast? hl⟩
    · rw [spaced_cons hgroups, List.getLast?_append_of_ne_nil _ (by simp),
        List.getLast?_cons_of_ne_nil (spaced_ne_nil hgroups hrest)] at hl
      obtain ⟨b', hb, hlast⟩ := ih hrest hl
      exact ⟨b', List.mem_cons_of_mem _ hb, hlast⟩

/-- Blocks with an empty line between them are lines one under another. -/
theorem intercalate_spaced (h : ∀ b ∈ groups, b ≠ []) :
    String.intercalate "\n\n" (groups.map (String.intercalate "\n")) =
      String.intercalate "\n" (spaced groups) := by
  induction groups with
  | nil => rfl
  | cons b groups ih =>
    obtain ⟨hb, hrest⟩ := List.forall_mem_cons.mp h
    rcases eq_or_ne groups [] with rfl | hgroups
    · rw [spaced_singleton, List.map_singleton, String.intercalate_singleton]
    · rw [List.map_cons, String.intercalate_cons_of_ne_nil (by simpa using hgroups), ih hrest,
        spaced_cons hgroups, String.intercalate_append_of_ne_nil hb (by simp),
        String.intercalate_cons_of_ne_nil (spaced_ne_nil hgroups hrest), String.empty_append,
        show ("\n\n" : String) = "\n" ++ "\n" from rfl]
      simp only [String.append_assoc]

theorem splitOnP_spaced (hne : groups ≠ []) (h : ∀ b ∈ groups, ∀ l ∈ b, isBlank l = false) :
    (spaced groups).splitOnP isBlank = groups := by
  induction groups with
  | nil => exact absurd rfl hne
  | cons b groups ih =>
    obtain ⟨hb, hrest⟩ := List.forall_mem_cons.mp h
    rcases eq_or_ne groups [] with rfl | hgroups
    · rw [spaced_singleton]
      exact List.splitOnP_eq_singleton hb
    · rw [spaced_cons hgroups, List.splitOnP_append_cons_of_forall_mem hb _ rfl, ih hgroups hrest]

def rereadBlocks (closed : Bool) : List (List String) → List (List String)
  | [] => []
  | b :: groups => reread (closed || !groups.isEmpty) b :: rereadBlocks closed groups

@[simp] theorem rereadBlocks_eq_nil : rereadBlocks closed groups = [] ↔ groups = [] := by
  cases groups <;> simp [rereadBlocks]

theorem map_length_rereadBlocks (closed : Bool) (groups : List (List String)) :
    (rereadBlocks closed groups).map List.length = groups.map List.length := by
  induction groups with
  | nil => rfl
  | cons b groups ih => rw [rereadBlocks, List.map_cons, ih, length_reread, List.map_cons]

theorem mem_rereadBlocks (h : b ∈ rereadBlocks closed groups) :
    ∃ b' ∈ groups, ∃ c, b = reread c b' := by
  induction groups with
  | nil => cases h
  | cons b' groups ih =>
    rcases List.mem_cons.mp h with rfl | h
    · exact ⟨b', List.mem_cons_self, _, rfl⟩
    · obtain ⟨c, hc, hb⟩ := ih h
      exact ⟨c, List.mem_cons_of_mem _ hc, hb⟩

theorem flatten_rereadBlocks (h : ∀ b ∈ groups, b ≠ []) :
    (rereadBlocks closed groups).flatten = reread closed groups.flatten := by
  induction groups with
  | nil => rfl
  | cons b groups ih =>
    obtain ⟨hb, hrest⟩ := List.forall_mem_cons.mp h
    rw [rereadBlocks, List.flatten_cons, ih hrest, List.flatten_cons]
    cases groups with
    | nil => simp [reread]
    | cons b' groups =>
      rw [reread_append (by simp [hrest b' List.mem_cons_self])]
      simp

theorem reread_spaced (h : ∀ b ∈ groups, b ≠ []) :
    reread closed (spaced groups) = spaced (rereadBlocks closed groups) := by
  induction groups with
  | nil => rfl
  | cons b groups ih =>
    obtain ⟨-, hrest⟩ := List.forall_mem_cons.mp h
    rcases eq_or_ne groups [] with rfl | hgroups
    · simp [rereadBlocks, spaced_singleton]
    · have hclosed : (closed || !groups.isEmpty) = true := by simp [hgroups]
      rw [spaced_cons hgroups, reread_append (by simp),
        reread_cons (spaced_ne_nil hgroups hrest), ih hrest, rereadBlocks,
        spaced_cons (mt rereadBlocks_eq_nil.mp hgroups), hclosed]
      rfl

/-- A text of blocks, with a line feed at its end if it is `closed`. -/
def written (closed : Bool) (groups : List (List String)) : String :=
  let text := String.intercalate "\n\n" (groups.map (String.intercalate "\n"))
  if closed && !text.isEmpty then text ++ "\n" else text

/-- The blocks have lines, and each of those is a line that is not blank. -/
structure IsGrouping (groups : List (List String)) : Prop where
  ne_nil : ∀ b ∈ groups, b ≠ []
  isBlank : ∀ b ∈ groups, ∀ l ∈ b, isBlank l = false
  newline : ∀ b ∈ groups, ∀ l ∈ b, '\n' ∉ l.toList

namespace IsGrouping

theorem newline_spaced (h : IsGrouping groups) {l : String} (hl : l ∈ spaced groups) :
    '\n' ∉ l.toList := by
  rcases mem_spaced hl with rfl | ⟨b, hb, hl⟩
  · simp
  · exact h.newline b hb l hl

theorem last_ne_empty (h : IsGrouping groups) {l : String}
    (hl : (spaced groups).getLast? = some l) : l ≠ "" := by
  obtain ⟨b, hb, hl⟩ := getLast?_spaced h.ne_nil hl
  rintro rfl
  cases h.isBlank b hb "" hl

theorem rereadBlocks_ne_nil (h : IsGrouping groups) (hb : b ∈ rereadBlocks closed groups) :
    b ≠ [] := by
  obtain ⟨b', hb', c, rfl⟩ := mem_rereadBlocks hb
  rw [← List.length_pos_iff_ne_nil, length_reread, List.length_pos_iff_ne_nil]
  exact h.ne_nil b' hb'

theorem rereadBlocks_isBlank (h : IsGrouping groups) (hb : b ∈ rereadBlocks closed groups)
    {l : String} (hl : l ∈ b) : Text.isBlank l = false := by
  obtain ⟨b', hb', c, rfl⟩ := mem_rereadBlocks hb
  obtain ⟨l', hl', heq⟩ := isBlank_of_mem_reread hl
  rw [heq, h.isBlank b' hb' l' hl']

theorem lines_spaced (closed : Bool) (h : IsGrouping groups) (hne : groups ≠ []) :
    lines (String.intercalate "\n" (spaced groups) ++ if closed then "\n" else "") =
      spaced (rereadBlocks closed groups) := by
  rw [lines_intercalate (fun _ => h.newline_spaced) (fun _ => h.last_ne_empty)
    (spaced_ne_nil hne h.ne_nil), reread_spaced h.ne_nil]

theorem written_eq (h : IsGrouping groups) (hne : groups ≠ []) : written closed groups =
    String.intercalate "\n" (spaced groups) ++ if closed then "\n" else "" := by
  have hsome : String.intercalate "\n" (spaced groups) ≠ "" := by
    intro hempty
    have hlines := h.lines_spaced false hne
    rw [hempty] at hlines
    exact spaced_ne_nil (mt rereadBlocks_eq_nil.mp hne) (fun _ => h.rereadBlocks_ne_nil) hlines.symm
  rw [written, intercalate_spaced h.ne_nil]
  cases closed <;> simp [hsome]

theorem splitOnP_lines_written (h : IsGrouping groups) :
    ((lines (written closed groups)).splitOnP Text.isBlank).filter (fun b => !b.isEmpty) =
      rereadBlocks closed groups := by
  rcases eq_or_ne groups [] with rfl | hne
  · cases closed <;> decide
  · rw [h.written_eq hne, h.lines_spaced closed hne,
      splitOnP_spaced (mt rereadBlocks_eq_nil.mp hne) fun _ hb _ => h.rereadBlocks_isBlank hb]
    exact List.filter_eq_self.mpr fun b hb => by simp [h.rereadBlocks_ne_nil hb]

theorem getLast?_written (h : IsGrouping groups) (hne : groups ≠ []) :
    (written closed groups).toList.getLast? = some '\n' ↔ closed = true := by
  rw [h.written_eq hne]
  cases closed with
  | true => simp
  | false =>
    have hl := List.getLast?_eq_some_getLast (spaced_ne_nil hne h.ne_nil)
    simp only [Bool.false_eq_true, if_false, String.append_empty, iff_false]
    rw [getLast?_intercalate hl (h.last_ne_empty hl)]
    exact fun hnewline => h.newline_spaced (List.mem_of_getLast? hl) (List.mem_of_getLast? hnewline)

end IsGrouping

end Groups

end Text

namespace Document

section Blocks

/-- The lines of a block, those that are gone among them. -/
def linesIn (d : Document) (b : Block) : List String := b.lines.map fun i => d.lines.getD i ""

/-- The blocks among the lines from `index` on are the runs of lines between blank ones; the first
run goes on from the block that was begun before. -/
theorem map_lines_blocksFrom {index : Nat} {start : Option Nat} {rest : List String}
    (line : Nat → String) (hstart : ∀ first ∈ start, first < index)
    (hline : ∀ i, (hi : i < rest.length) → line (index + i) = rest[i]) :
    (blocksFrom index start rest).map (fun b => b.lines.map line) =
      ((rest.splitOnP Text.isBlank).modifyHead
        ((start.map fun first => (Block.mk first index).lines.map line).getD [] ++ ·)).filter
          fun lines => !lines.isEmpty := by
  induction rest generalizing index start with
  | nil =>
    cases start with
    | none => rfl
    | some first =>
      have hlt : first < index := hstart first rfl
      simp [blocksFrom, Block.lines_eq, Nat.sub_eq_zero_iff_le, Nat.not_le.mpr hlt]
  | cons l rest ih =>
    -- In each case the line is one more of the run that is open, begins one, or closes it.
    have hhead : line index = l := hline 0 (by simp)
    have hrest : ∀ i, (hi : i < rest.length) → line (index + 1 + i) = rest[i] := fun i hi => by
      rw [Nat.add_right_comm, Nat.add_assoc]
      exact hline (i + 1) (by simpa using hi)
    have hnone (runs : List (List String)) : runs.modifyHead (fun run => run) = runs := by
      cases runs <;> rfl
    unfold blocksFrom
    rw [List.splitOnP_cons_eq_if_modifyHead]
    cases hblank : Text.isBlank l with
    | false =>
      cases start with
      | none =>
        rw [ih (by simp) hrest]
        simp [Block.lines_eq, hhead, Function.comp_def]
      | some first =>
        have hlt : first < index := hstart first rfl
        rw [ih (by simpa using Nat.lt_succ_of_lt hlt) hrest]
        simp [Block.lines_concat hlt.le, hhead, Function.comp_def]
    | true =>
      cases start with
      | none =>
        rw [ih (by simp) hrest]
        simp [hnone]
      | some first =>
        have hlt : first < index := hstart first rfl
        rw [List.map_cons, ih (by simp) hrest]
        simp [Block.lines_eq, Nat.sub_eq_zero_iff_le, Nat.not_le.mpr hlt, hnone]

theorem map_linesIn_parse (text : String) : (parse text).blocks.map (parse text).linesIn =
    ((Text.lines text).splitOnP Text.isBlank).filter fun lines => !lines.isEmpty := by
  have hline (i : Nat) (hi : i < (Text.lines text).length) :
      (Text.lines text).getD (0 + i) "" = (Text.lines text)[i] := by
    rw [Nat.zero_add, List.getD_eq_getElem _ _ hi]
  refine (map_lines_blocksFrom (fun i => (Text.lines text).getD i "") (by simp) hline).trans ?_
  cases (Text.lines text).splitOnP Text.isBlank <;> rfl

end Blocks

section Left

variable {d : Document}

/-- What is left of the blocks of which a line is left. -/
def left (d : Document) : List (List String) :=
  (d.blocks.map d.aliveIn).filter fun lines => !lines.isEmpty

def remaining (d : Document) : List String :=
  ((List.range d.lines.length).filter d.isAlive).map fun i => d.lines.getD i ""

theorem render_eq (d : Document) : d.render = Text.written d.trailingNewline d.left := rfl

theorem exists_of_mem_left {b : List String} {l : String} (hb : b ∈ d.left) (hl : l ∈ b) :
    ∃ i, d.isAlive i = true ∧ d.lines.getD i "" = l := by
  obtain ⟨block, -, rfl⟩ := List.mem_map.mp (List.mem_of_mem_filter hb)
  obtain ⟨i, hi, rfl⟩ := List.mem_map.mp hl
  exact ⟨i, (List.mem_filter.mp hi).2, rfl⟩

theorem left_parse (text : String) :
    (parse text).left = (parse text).blocks.map (parse text).linesIn := by
  have halive : (parse text).blocks.map (parse text).aliveIn =
      (parse text).blocks.map (parse text).linesIn := by
    refine List.map_congr_left fun b hb => ?_
    rw [aliveIn, linesIn, List.filter_eq_self.mpr fun i hi =>
      isAlive_parse_iff_mem.mpr (List.mem_flatMap.mpr ⟨b, hb, hi⟩)]
  rw [left, halive, map_linesIn_parse, List.filter_filter]
  simp

variable {text : String} {gone : List Nat}

theorem isAlive_of_kill {i : Nat} (h : (d.kill gone).isAlive i = true) : d.isAlive i = true := by
  rw [kill_eq_select, isAlive_select, Bool.and_eq_true] at h
  exact h.1

/-- What is left of a text's blocks are lines of the text that are not blank. -/
theorem isGrouping_left_kill (text : String) (gone : List Nat) :
    Text.IsGrouping ((parse text).kill gone).left := by
  have hline : ∀ b ∈ ((parse text).kill gone).left, ∀ l ∈ b,
      l ∈ Text.lines text ∧ Text.isBlank l = false := by
    intro b hb l hl
    obtain ⟨i, hi, rfl⟩ := exists_of_mem_left hb hl
    obtain ⟨l, hl, hblank⟩ := isAlive_parse.mp (isAlive_of_kill hi)
    have heq : ((parse text).kill gone).lines.getD i "" = l := by
      rw [List.getD_eq_getElem?_getD]
      exact congrArg (Option.getD · "") hl
    rw [heq]
    exact ⟨List.mem_of_getElem? hl, hblank⟩
  exact {
    ne_nil := fun b hb => by simpa using (List.mem_filter.mp hb).2
    isBlank := fun b hb l hl => (hline b hb l hl).2
    newline := fun b hb l hl => Text.newline_not_mem_of_mem_lines (hline b hb l hl).1 }

theorem flatten_left_kill (text : String) (gone : List Nat) :
    ((parse text).kill gone).left.flatten = ((parse text).kill gone).remaining := by
  -- Both go through the lines in ascending order, and a line that is alive is in a block.
  have hindices :
      ((parse text).blocks.flatMap Block.lines).filter ((parse text).kill gone).isAlive =
        (List.range (Text.lines text).length).filter ((parse text).kill gone).isAlive := by
    rw [flatMap_lines_parse]
    refine List.Pairwise.eq_of_mem_iff (List.pairwise_findIdxs.filter _)
      (List.pairwise_lt_range.filter _) fun i => ?_
    simp only [List.mem_filter, List.mem_range, and_congr_left_iff]
    intro hi
    have hmem := isAlive_parse_iff_mem.mp (isAlive_of_kill hi)
    have hlt : i < (Text.lines text).length := by
      simpa [parse] using lt_of_isAlive (isAlive_of_kill hi)
    rw [flatMap_lines_parse] at hmem
    exact iff_of_true hmem hlt
  rw [left, List.flatten_filter_not_isEmpty, ← List.flatMap_def, remaining]
  refine Eq.trans ?_ (congrArg (List.map _) hindices)
  rw [List.filter_flatMap, List.map_flatMap]
  rfl

end Left

section Rereading

/-- A document read from what was written of another: all of it is alive, and it has the blocks and
the lines that were left, up to carriage returns before the ends of lines. -/
structure IsReread (d d' : Document) : Prop where
  isAlive : ∀ b ∈ d'.blocks, ∀ i ∈ b.lines, d'.isAlive i = true
  sizes : d'.blocks.map (fun b => b.lines.length) = d.left.map List.length
  blocks : d'.blocks.map d'.linesIn = Text.rereadBlocks d.trailingNewline d.left
  remaining : d'.remaining = Text.reread d.trailingNewline d.remaining
  trailingNewline : d.left ≠ [] → d'.trailingNewline = d.trailingNewline
  render : d'.render =
    Text.written d.trailingNewline (Text.rereadBlocks d.trailingNewline d.left)

variable {closed : Bool} {groups : List (List String)}

theorem linesIn_parse_written (h : Text.IsGrouping groups) :
    (parse (Text.written closed groups)).blocks.map (parse (Text.written closed groups)).linesIn =
      Text.rereadBlocks closed groups := by
  rw [map_linesIn_parse, h.splitOnP_lines_written]

theorem trailingNewline_parse_written (h : Text.IsGrouping groups) (hne : groups ≠ []) :
    (parse (Text.written closed groups)).trailingNewline = closed :=
  Bool.eq_iff_iff.mpr (decide_eq_true_iff.trans (h.getLast?_written hne))

theorem parse_eq_kill (text : String) : parse text = (parse text).kill [] :=
  (select_eq_self (by simp)).symm

theorem isReread_kill (text : String) (gone : List Nat) :
    IsReread ((parse text).kill gone) (parse ((parse text).kill gone).render) := by
  have hgrouping := isGrouping_left_kill text gone
  have hflatten := flatten_left_kill text gone
  generalize (parse text).kill gone = d at hgrouping hflatten
  have hlines : (parse d.render).blocks.map (parse d.render).linesIn =
      Text.rereadBlocks d.trailingNewline d.left := linesIn_parse_written hgrouping
  have hremaining : (parse d.render).left.flatten = (parse d.render).remaining := by
    rw [parse_eq_kill]
    exact flatten_left_kill _ []
  have hnewline (hne : d.left ≠ []) : (parse d.render).trailingNewline = d.trailingNewline :=
    trailingNewline_parse_written hgrouping hne
  refine ⟨fun b hb i hi => ?_, ?_, hlines, ?_, hnewline, ?_⟩
  · exact isAlive_parse_iff_mem.mpr (List.mem_flatMap.mpr ⟨b, hb, hi⟩)
  · rw [← Text.map_length_rereadBlocks d.trailingNewline, ← hlines, List.map_map]
    exact List.map_congr_left fun b _ => (List.length_map _).symm
  · rw [← hremaining, left_parse, hlines, Text.flatten_rereadBlocks hgrouping.ne_nil, hflatten]
  · rw [render_eq, left_parse, hlines]
    rcases eq_or_ne d.left [] with hnil | hne
    · rw [hnil]
      cases d.trailingNewline <;> cases (parse d.render).trailingNewline <;> rfl
    · rw [hnewline hne]

/-- What is written of a text after any deletions is read as the blocks and lines that are left, all
of them alive. A line is read with one carriage return less where it ends in one and a line feed
follows; without such lines nothing changes. -/
theorem parse_render (text : String) (units : List TextUnit) :
    let d := ((parse text).deleteAll units).1
    let d' := parse d.render
    ((∀ u ∈ units, (parse text).Has u) → ((parse text).deleteAll units).2 = .ok ()) ∧
      IsReread d d' ∧
      (d'.remaining = d.remaining ↔
        ∀ l ∈ Text.followed d.trailingNewline d.remaining, l.toList.getLast? ≠ some '\r') ∧
      (d'.remaining = d.remaining → d'.blocks.map d'.linesIn = d.left ∧ d'.render = d.render) := by
  obtain ⟨gone, hgone⟩ := (parse text).exists_deleteAll units
  have hread := isReread_kill text gone
  have hflatten := flatten_left_kill text gone
  have hgrouping := isGrouping_left_kill text gone
  dsimp only
  rw [hgone]
  generalize (parse text).kill gone = d at hread hflatten hgrouping
  refine ⟨fun h => by rw [deleteAll_eq h], hread, ?_, fun h => ?_⟩
  · rw [hread.remaining, Text.reread_eq_self_iff]
  · have hblocks : Text.rereadBlocks d.trailingNewline d.left = d.left :=
      List.eq_iff_flatten_eq.mpr
        ⟨by rw [Text.flatten_rereadBlocks hgrouping.ne_nil, hflatten, ← hread.remaining, h],
          Text.map_length_rereadBlocks _ _⟩
    exact ⟨hread.blocks.trans hblocks, by rw [hread.render, hblocks, render_eq]⟩

/-- Of a text with two carriage returns before a line feed one is kept, and read with the line feed
when what was written is read. -/
theorem rereading_drops_return :
    let d := ((parse "a\r\r\n").deleteAll []).1
    let d' := parse d.render
    d.remaining = ["a\r"] ∧ d'.remaining = ["a"] ∧ d.render = "a\r\n" ∧ d'.render = "a\n" := by
  decide +kernel

end Rereading

end Document

end DeltaDebugging
