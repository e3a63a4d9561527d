import DeltaDebugging.Proofs.Hierarchy.Driver

/-!
# The history of a hierarchical run

What passes between a generator and the driver is the generator's own affair, so it can be
kept beside the generator's state without the driver noticing. Statements about the levels
of a run are then statements about the history that it leaves. How a level leaves the tester
is not in it: the stages of a run say that too.
-/
namespace DeltaDebugging

theorem getElem?_concat_eq_some {α : Type} {l : List α} {a b : α} {k : Nat} :
    (l ++ [a])[k]? = some b ↔ l[k]? = some b ∨ k = l.length ∧ a = b := by
  rw [List.getElem?_append]
  split
  · next hlt => simp [Nat.ne_of_lt hlt]
  · next hge =>
    have hnone : l[k]? = none := List.getElem?_eq_none (Nat.le_of_not_lt hge)
    simp only [List.getElem?_singleton, hnone]
    by_cases hk : k = l.length
    · simp [hk]
    · have hne : k - l.length ≠ 0 := by omega
      simp [hk, hne]

/-- What passed between a generator and the driver, the earliest first: the levels handed
out, each with the state the generator was left in, and the results it was given. -/
structure History (γ α : Type) where
  handed : List (γ × Level α) := []
  results : List (Outcome α) := []

namespace History

variable {γ α : Type}

def hand (h : History γ α) (s : γ) : Option (Level α) → History γ α
  | none => h
  | some level => { h with handed := h.handed ++ [(s, level)] }

def give (h : History γ α) (o : Outcome α) : History γ α :=
  { h with results := h.results ++ [o] }

@[simp] theorem handed_hand_some (h : History γ α) (s : γ) (level : Level α) :
    (h.hand s (some level)).handed = h.handed ++ [(s, level)] := rfl

@[simp] theorem hand_none (h : History γ α) (s : γ) : h.hand s none = h := rfl

@[simp] theorem results_hand (h : History γ α) (s : γ) (level? : Option (Level α)) :
    (h.hand s level?).results = h.results := by
  cases level? <;> rfl

@[simp] theorem handed_give (h : History γ α) (o : Outcome α) : (h.give o).handed = h.handed := rfl

@[simp] theorem results_give (h : History γ α) (o : Outcome α) :
    (h.give o).results = h.results ++ [o] := rfl

theorem prefix_hand (h : History γ α) (s : γ) (level? : Option (Level α)) :
    h.handed <+: (h.hand s level?).handed := by
  cases level? with
  | none => exact List.prefix_rfl
  | some level => exact List.prefix_append _ _

end History

/-- Where the results lead a generator, one after another. -/
def Generator.after {γ α β : Type} (g : Generator γ α β) (s : γ) (results : List (Outcome α)) : γ :=
  results.foldl (fun s o => (g.next o s).2) s

/-- The generator that also keeps its history. -/
def Generator.traced {γ α β : Type} (g : Generator γ α β) : Generator (γ × History γ α) α β where
  first s :=
    let (level, s') := g.first s.1
    (level, s', s.2.hand s' level.toOption)
  next o s :=
    let (level, s') := g.next o s.1
    (level, s', (s.2.give o).hand s' level)
  present s := g.present s.1

namespace Generator

variable {α β γ : Type} {g : Generator γ α β} {s : γ × History γ α} {s' : γ}

theorem triple_eq_iff {τ ρ δ : Type} {x : τ × ρ} {f : τ × ρ → δ} {a : τ} {b : ρ} {c : δ} :
    (x.1, x.2, f x) = (a, b, c) ↔ x = (a, b) ∧ c = f (a, b) := by
  constructor
  · rintro ⟨⟩
    exact ⟨rfl, rfl⟩
  · rintro ⟨rfl, rfl⟩
    rfl

theorem first_traced_iff {level : Except HierarchyError (Level α)} {h : History γ α} :
    g.traced.first s = (level, s', h) ↔
      g.first s.1 = (level, s') ∧ h = s.2.hand s' level.toOption :=
  triple_eq_iff (f := fun x : Except HierarchyError (Level α) × γ => s.2.hand x.2 x.1.toOption)

theorem next_traced_iff {o : Outcome α} {level? : Option (Level α)} {h : History γ α} :
    g.traced.next o s = (level?, s', h) ↔
      g.next o s.1 = (level?, s') ∧ h = (s.2.give o).hand s' level? :=
  triple_eq_iff (f := fun x => (s.2.give o).hand x.2 x.1)

end Generator

namespace Hierarchy

variable {σ α β γ : Type} [DecidableEq α] {a : Algorithm} {g : Generator γ α β}
  {limits : HierarchyLimits}

/-- The ending without the history. -/
def forget (e : Ending (γ × History γ α)) : Ending γ := ⟨e.answer, e.generator.1⟩

theorem descend_traced (remaining : Nat) (s : γ × History γ α) (level : Level α)
    (report : Report) :
    (descend a g.traced limits remaining s level report).bind (fun e => .done (forget e)) =
      descend a g limits remaining s.1 level report := by
  induction remaining generalizing s level report with
  | zero => rfl
  | succ remaining ih =>
    refine (Dialogue.bind_assoc _ _ _).trans (congrArg (Dialogue.bind _) (funext fun r => ?_))
    cases r with
    | error e => rfl
    | ok result =>
      cases hg : g.next result s.1 with
      | mk next? s' =>
        dsimp only
        rw [Generator.next_traced_iff.mpr ⟨hg, rfl⟩, hg]
        cases next? with
        | none => rfl
        | some next =>
          dsimp only
          split
          · rfl
          · exact ih _ _ _

theorem minimize_traced (a : Algorithm) (g : Generator γ α β) (limits : HierarchyLimits)
    (s : γ × History γ α) :
    (minimize a g.traced limits s).bind (fun e => .done (forget e)) =
      minimize a g limits s.1 := by
  unfold minimize
  cases hg : g.first s.1 with
  | mk level s' =>
    rw [Generator.first_traced_iff.mpr ⟨hg, rfl⟩]
    cases level with
    | error e => rfl
    | ok level => exact descend_traced _ _ _ _

theorem run_minimize_traced (a : Algorithm) (g : Generator γ α β) (limits : HierarchyLimits)
    (s : γ × History γ α) (t : Tester σ β) (st : σ) :
    (minimize a g limits s.1).run t st =
      let r := (minimize a g.traced limits s).run t st
      ⟨forget r.answer, r.state, r.steps⟩ := by
  rw [← minimize_traced, Dialogue.run_bind]
  simp [Dialogue.run]

end Hierarchy

/-- A level that was completed, what came of it, and how it left the tester. -/
structure Stage (σ α : Type) where
  level : Level α
  result : Outcome α
  state : σ

namespace Stage

variable {σ ω α : Type}

def map (f : ω → σ) (x : Stage ω α) : Stage σ α := ⟨x.level, x.result, f x.state⟩

/-- The report with one more level. -/
def addTo (r : Report) (x : Stage σ α) : Report :=
  r.recordLevel x.level.size x.result.cut.retained.length x.result.cut.deleted.length
    x.result.statistics

end Stage

namespace Hierarchy

variable {σ α β γ : Type} [DecidableEq α]

/-- The stages of a run that minimizes `level` and all that follow it. -/
def stagesFrom (a : Algorithm) (g : Generator γ α β) (limits : HierarchyLimits) (t : Tester σ β) :
    (remaining : Nat) → γ → Level α → σ → List (Stage σ α)
  | 0, _, _, _ => []
  | remaining + 1, s, level, st =>
    let r := (minimizeLevel a (g.present s) level).run.run t st
    match r.answer with
    | .error _ => []
    | .ok result =>
      ⟨level, result, r.state⟩ ::
        match g.next result s with
        | (none, _) => []
        | (some next, s) =>
          if limits.detectStalls && result.cut.deleted.isEmpty && next.items = level.items then []
          else stagesFrom a g limits t remaining s next r.state

/-- The levels that a run completes, one after another. -/
def stages (a : Algorithm) (g : Generator γ α β) (limits : HierarchyLimits) (t : Tester σ β)
    (s : γ) (st : σ) : List (Stage σ α) :=
  match g.first s with
  | (.error _, _) => []
  | (.ok level, s) => stagesFrom a g limits t limits.maxLevels s level st

variable {a : Algorithm} {g : Generator γ α β} {limits : HierarchyLimits} {t : Tester σ β}
  {level : Level α} {st : σ}

theorem results_descend_traced (remaining : Nat) (s : γ × History γ α) (report : Report) :
    ((descend a g.traced limits remaining s level report).run t st).answer.generator.2.results =
      s.2.results ++ (stagesFrom a g limits t remaining s.1 level st).map Stage.result := by
  induction remaining generalizing s level report st with
  | zero => exact (List.append_nil _).symm
  | succ remaining ih =>
    rw [descend, stagesFrom, Dialogue.run_seq]
    dsimp only
    have hpresent : g.traced.present s = g.present s.1 := rfl
    rw [hpresent]
    cases hr : ((minimizeLevel a (g.present s.1) level).run.run t st).answer with
    | error e => exact (List.append_nil _).symm
    | ok result =>
      dsimp only
      cases hg : g.next result s.1 with
      | mk next? s' =>
        rw [Generator.next_traced_iff.mpr ⟨hg, rfl⟩]
        cases next? with
        | none => simp
        | some next =>
          dsimp only
          split
          · simp
          · rw [ih]
            simp

theorem results_minimize_traced (a : Algorithm) (g : Generator γ α β) (limits : HierarchyLimits)
    (t : Tester σ β) (s : γ) (st : σ) :
    ((minimize a g.traced limits (s, {})).run t st).answer.generator.2.results =
      (stages a g limits t s st).map Stage.result := by
  unfold minimize stages
  cases hg : g.first s with
  | mk level s' =>
    rw [Generator.first_traced_iff.mpr ⟨hg, rfl⟩]
    cases level with
    | error e => rfl
    | ok level => exact results_descend_traced _ _ _

/-- The last stage leaves the tester as the run does, and the stages make up the report. -/
theorem descend_ok {remaining : Nat} {s : γ} {report final : Report}
    (h : ((descend a g limits remaining s level report).run t st).answer.answer = .ok final) :
    ∃ before last s', stagesFrom a g limits t remaining s level st = before ++ [last] ∧
      last.state = ((descend a g limits remaining s level report).run t st).state ∧
      (g.next last.result s').1 = none ∧ final = (before ++ [last]).foldl Stage.addTo report := by
  induction remaining generalizing s level report st with
  | zero => cases h
  | succ remaining ih =>
    rw [descend, Dialogue.run_seq] at h ⊢
    rw [stagesFrom]
    dsimp only at h ⊢
    cases hr : ((minimizeLevel a (g.present s) level).run.run t st).answer with
    | error e =>
      rw [hr] at h
      cases h
    | ok result =>
      rw [hr] at h
      dsimp only at h ⊢
      cases hg : g.next result s with
      | mk next? s' =>
        rw [hg] at h
        cases next? with
        | none =>
          cases h
          exact ⟨[], _, s, rfl, rfl, congrArg Prod.fst hg, rfl⟩
        | some next =>
          dsimp only at h ⊢
          split at h
          · cases h
          · next hstall =>
            rw [if_neg hstall, if_neg hstall]
            obtain ⟨before, last, s'', hstages, hstate, hnext, hfinal⟩ := ih h
            exact ⟨_ :: before, last, s'', congrArg _ hstages, hstate, hnext, hfinal⟩

theorem stages_of_ok {s : γ} {final : Report}
    (h : ((minimize a g limits s).run t st).answer.answer = .ok final) :
    ∃ before last s', stages a g limits t s st = before ++ [last] ∧
      last.state = ((minimize a g limits s).run t st).state ∧
      (g.next last.result s').1 = none ∧ final = (before ++ [last]).foldl Stage.addTo {} := by
  unfold minimize at h ⊢
  unfold stages
  split at h
  · cases h
  · next level s' hfirst =>
    rw [hfirst]
    exact descend_ok h

section Keep

variable (Inv : List (Outcome α) → γ → Level α → σ → Prop)
  (Post : List (Outcome α) → Stage σ α → Prop)
  (hstep : ∀ {before s level st result}, Inv before s level st →
    let r := (minimizeLevel a (g.present s) level).run.run t st
    r.answer = .ok result → Post before ⟨level, result, r.state⟩ ∧
      ∀ {next s'}, g.next result s = (some next, s') → Inv (before ++ [result]) s' next r.state)

include hstep

theorem stagesFrom_keep {remaining : Nat} {before : List (Outcome α)} {s : γ}
    (h : Inv before s level st) {done after : List (Stage σ α)} {x : Stage σ α}
    (hx : stagesFrom a g limits t remaining s level st = done ++ x :: after) :
    Post (before ++ done.map Stage.result) x := by
  induction remaining generalizing before s level st done with
  | zero => simp [stagesFrom] at hx
  | succ remaining ih =>
    rw [stagesFrom] at hx
    cases hr : ((minimizeLevel a (g.present s) level).run.run t st).answer with
    | error e => simp [hr] at hx
    | ok result =>
      obtain ⟨hpost, hnext⟩ := hstep h hr
      rw [hr] at hx
      dsimp only at hx
      cases done with
      | nil =>
        obtain ⟨rfl, -⟩ := List.cons.inj hx
        simpa using hpost
      | cons first done =>
        obtain ⟨hhead, htail⟩ := List.cons.inj hx
        subst hhead
        cases hg : g.next result s with
        | mk next? s' =>
          rw [hg] at htail
          cases next? with
          | none => simp at htail
          | some next =>
            dsimp only at htail
            split at htail
            · simp at htail
            · simpa using ih (hnext hg) htail

/-- What one level makes of an invariant, knowing the results before it, holds of every stage. -/
theorem stages_keep {s : γ} (hfirst : ∀ level s', g.first s = (.ok level, s') → Inv [] s' level st)
    {done after : List (Stage σ α)} {x : Stage σ α}
    (hx : stages a g limits t s st = done ++ x :: after) : Post (done.map Stage.result) x := by
  unfold stages at hx
  split at hx
  · simp at hx
  · next level s' heq => simpa using stagesFrom_keep Inv Post hstep (hfirst level s' heq) hx

end Keep

end Hierarchy

end DeltaDebugging
