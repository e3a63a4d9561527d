/-!
# Activities

A computation over a state `σ` that may be suspended, may wait for ever, and may
panic. An outside event is noticed only while it is suspended or waiting: running an
activity checks for it after every suspension, and a wait can end in no other way.
-/
namespace DeltaDebugging

inductive Activity (σ β : Type) where
  | done (b : β)
  | panic (message : String)
  | wait
  | suspend (k : Unit → Activity σ β)
  | act (f : σ → σ) (k : σ → Activity σ β)

inductive Halt (β : Type) where
  | done (b : β)
  | panicked (message : String)
  | interrupted
  deriving DecidableEq, Repr

namespace Activity

variable {σ τ β γ : Type}

def bind : Activity σ β → (β → Activity σ γ) → Activity σ γ
  | done b, f => f b
  | panic m, _ => panic m
  | wait, _ => wait
  | suspend k, f => suspend fun u => (k u).bind f
  | act g k, f => act g fun s => (k s).bind f

instance : Monad (Activity σ) where
  pure := done
  bind := bind

def get : Activity σ σ := act id done

def modify (f : σ → σ) : Activity σ Unit := act f fun _ => done ()

def onSecond {χ : Type} : Activity τ β → Activity (χ × τ) β
  | done b => done b
  | panic m => panic m
  | wait => wait
  | suspend k => suspend fun u => (k u).onSecond
  | act f k => act (fun s => (s.1, f s.2)) fun s => (k s.2).onSecond

def run (interrupted : σ → Bool) : Activity σ β → σ → Halt β × σ
  | done b, s => (.done b, s)
  | panic m, s => (.panicked m, s)
  | wait, s => (.interrupted, s)
  | suspend k, s => if interrupted s then (.interrupted, s) else (k ()).run interrupted s
  | act f k, s => (k (f s)).run interrupted (f s)

theorem run_get (interrupted : σ → Bool) (s : σ) : get.run interrupted s = (.done s, s) := rfl

theorem run_bind (interrupted : σ → Bool) (a : Activity σ β) (f : β → Activity σ γ) (s : σ) :
    (a.bind f).run interrupted s =
      match a.run interrupted s with
      | (.done b, s) => (f b).run interrupted s
      | (.panicked m, s) => (.panicked m, s)
      | (.interrupted, s) => (.interrupted, s) := by
  induction a generalizing s with
  | done b => rfl
  | panic m => rfl
  | wait => rfl
  | suspend k ih =>
    by_cases h : interrupted s = true
    · simp [bind, run, h]
    · simp [bind, run, h, ih]
  | act g k ih => simp [bind, run, ih]

end Activity

end DeltaDebugging
