/-!
# Searching a graph

A search over a graph given by its successor function, from some vertices and among the
open ones only. A vertex is marked when it is met for the first time and then waits until
its edges are followed, the one met last before all others. Every vertex is marked at most
once, so there are never more rounds than vertices.
-/
namespace DeltaDebugging.Graph

structure Search where
  /-- By vertex, whether it was met. -/
  marked : Array Bool
  /-- The vertices whose edges are still to be followed, the next one first. -/
  pending : List Nat
  deriving DecidableEq, Repr

namespace Search

variable (successors : Nat → List Nat) (isOpen : Nat → Bool)

def start (n : Nat) : Search := ⟨Array.replicate n false, []⟩

def meet (s : Search) (v : Nat) : Search :=
  if isOpen v && !s.marked.getD v true then
    ⟨s.marked.setIfInBounds v true, v :: s.pending⟩
  else s

def follow (s : Search) : Search :=
  match s.pending with
  | [] => s
  | v :: rest => (successors v).foldl (meet isOpen) { s with pending := rest }

/-- The rounds that there can still be: one for each vertex that waits or may be met. -/
def work (s : Search) : Nat := s.marked.count false + s.pending.length

theorem work_meet (s : Search) (v : Nat) : (s.meet isOpen v).work = s.work := by
  unfold meet
  split
  · next hnew =>
    rw [Bool.and_eq_true, Bool.not_eq_true', Array.getD] at hnew
    obtain ⟨-, hnew⟩ := hnew
    split at hnew
    · next hv =>
      have hunmarked : s.marked[v] = false := hnew
      have hpos : 0 < s.marked.count false :=
        Array.count_pos_iff.mpr (Array.mem_of_getElem hunmarked)
      simp only [work, Array.setIfInBounds, dif_pos hv, Array.count_set, hunmarked, beq_self_eq_true,
        if_true, List.length_cons, show (true == false) = false from rfl, Bool.false_eq_true, if_false]
      omega
    · cases hnew
  · rfl

theorem work_foldl_meet (vs : List Nat) (s : Search) :
    (vs.foldl (meet isOpen) s).work = s.work := by
  induction vs generalizing s with
  | nil => rfl
  | cons v vs ih => rw [List.foldl_cons, ih, work_meet]

theorem work_follow {s : Search} (h : s.pending ≠ []) :
    (s.follow successors isOpen).work + 1 = s.work := by
  unfold follow
  split
  · next hnone => exact absurd hnone h
  · next v rest hv =>
    rw [work_foldl_meet]
    simp only [work, hv, List.length_cons]
    omega

def exhaust (s : Search) : Search :=
  if s.pending = [] then s else exhaust (s.follow successors isOpen)
termination_by s.work
decreasing_by
  have := work_follow successors isOpen ‹_›
  omega

def begun (n : Nat) (starts : List Nat) : Search := starts.foldl (meet isOpen) (start n)

end Search

/-- By vertex, whether some open one of `starts` leads to it through open vertices, in a
graph of `n` vertices. -/
def spread (n : Nat) (successors : Nat → List Nat) (isOpen : Nat → Bool) (starts : List Nat) :
    Array Bool :=
  ((Search.begun isOpen n starts).exhaust successors isOpen).marked

/-- A path of any length, zero included. -/
inductive Path (successors : Nat → List Nat) : Nat → Nat → Prop
  | refl (v : Nat) : Path successors v v
  | step {u v w : Nat} : v ∈ successors u → Path successors v w → Path successors u w

theorem Path.trans {successors : Nat → List Nat} {u v w : Nat} (huv : Path successors u v)
    (hvw : Path successors v w) : Path successors u w := by
  induction huv with
  | refl => exact hvw
  | step he _ ih => exact .step he (ih hvw)

theorem Path.edge {successors : Nat → List Nat} {u v : Nat} (h : v ∈ successors u) :
    Path successors u v := .step h (.refl v)

end DeltaDebugging.Graph
