import DeltaDebugging.Hierarchy.Tree
import DeltaDebugging.Memo
import DeltaDebugging.Settings
import DeltaDebugging.Snapshot.SameFailure
import DeltaDebugging.Text.Document
import DeltaDebugging.Text.Failure

/-!
# Reducing a document

A hierarchical run over the units of a document, first its blocks and then the lines of
the blocks that were retained. A deletion is kept if the oracle, whatever it is, reports
the failure that it reported for the untouched document.
-/
namespace DeltaDebugging

/-- The algorithm of some settings: it tries to delete the last item of a level too, logs
what it did, and heeds the cancellation token. -/
def MinimizerSettings.toAlgorithm (m : MinimizerSettings) : Algorithm :=
  (Algorithm.ofKind m.algorithm m.limits m.seed true).withZeroTesting.withLog

def SnapshotKind.strategy : SnapshotKind → Strategy Document (List Bool)
  | clone => .clone
  | checkpoint => Document.checkpointing

def Document.generator (d : Document) : Generator Unit TextUnit TextUnit :=
  .tree d.blockUnits d.children .retained

def Settings.dialogue (s : Settings) (d : Document) : Dialogue TextUnit (Ending Unit) :=
  Hierarchy.minimize s.minimizer.toAlgorithm d.generator s.hierarchy ()

/-- What a reduction ends with. The document is the last one committed, whether or not the
run came to its end. -/
structure Reduction (τ : Type) where
  project : Project Document τ
  trials : Nat
  result : Except ReductionError Report

namespace Reduction

variable {τ : Type}

def document (r : Reduction τ) : Document := r.project.manager.context

def tester (s : Settings) (f : SameFailure Document τ TextUnit Failure)
    (cancelled : τ → Bool) : Tester (Project Document τ) TextUnit :=
  f.tester s.snapshot.strategy true cancelled

/-- The run once the failure is recorded. Trials are counted before the cache. -/
def run (s : Settings) (f : SameFailure Document τ TextUnit Failure) (cancelled : τ → Bool)
    (d : Document) (t : τ) : Reduction τ :=
  let bare := tester s f cancelled
  let start : Project Document τ := ⟨⟨d, 0, 0⟩, t, 0⟩
  if s.minimizer.cacheResults then
    let r := (s.dialogue d).run bare.cached.counted ⟨⟨start, .empty, 0⟩, 0⟩
    ⟨r.state.inner.inner, r.state.trials, r.answer.answer⟩
  else
    let r := (s.dialogue d).run bare.counted ⟨start, 0⟩
    ⟨r.state.inner, r.state.trials, r.answer.answer⟩

def reduce (s : Settings) (oracle : Document → Activity τ (Check Failure))
    (cancelled : τ → Bool) (d : Document) (t : τ) :
    Halt (Except ReductionError (Reduction τ)) × τ :=
  match (SameFailure.create oracle (Failure.same s.oracle.compareMessage) Document.lens [] d).run
      (fun _ => false) t with
  | (.done (.ok f), t) =>
    let r := run s f cancelled d t
    (.done (.ok r), r.project.surroundings)
  | (.done (.error e), t) => (.done (.error e), t)
  | (.panicked message, t) => (.panicked message, t)
  | (.interrupted, t) => (.interrupted, t)

end Reduction

end DeltaDebugging
