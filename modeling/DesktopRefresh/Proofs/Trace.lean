import DesktopRefresh.Trace

/-!
# Joining traces

Traces that follow each other are joined part by part, so that every part of a join is read off the
parts of what was joined.
-/

namespace DesktopRefresh

namespace Results

@[simp] theorem succeeded_append (a b : Results) : (a ++ b).succeeded = a.succeeded + b.succeeded := rfl

@[simp] theorem failed_append (a b : Results) : (a ++ b).failed = a.failed + b.failed := rfl

@[simp] theorem skipped_append (a b : Results) : (a ++ b).skipped = a.skipped + b.skipped := rfl

@[simp] theorem errors_append (a b : Results) : (a ++ b).errors = a.errors ++ b.errors := rfl

theorem total_append (a b : Results) : (a ++ b).total = a.total + b.total := by
  simp only [total, succeeded_append, failed_append, skipped_append]
  omega

end Results

namespace Trace

@[simp] theorem lookups_append (a b : Trace) : (a ++ b).lookups = a.lookups ++ b.lookups := rfl

@[simp] theorem calls_append (a b : Trace) : (a ++ b).calls = a.calls ++ b.calls := rfl

@[simp] theorem progress_append (a b : Trace) : (a ++ b).progress = a.progress ++ b.progress := rfl

@[simp] theorem log_append (a b : Trace) : (a ++ b).log = a.log ++ b.log := rfl

@[simp] theorem results_append (a b : Trace) : (a ++ b).results = a.results ++ b.results := rfl

theorem stdout_append (a b : Trace) : (a ++ b).stdout = a.stdout ++ b.stdout := by
  rw [stdout, progress_append, List.map_append, String.join_append]
  rfl

theorem empty_append (a : Trace) : empty ++ a = a := by
  obtain ⟨lookups, calls, progress, log, succeeded, failed, skipped, errors⟩ := a
  change Trace.mk lookups calls progress log ⟨0 + succeeded, 0 + failed, 0 + skipped, errors⟩ = _
  rw [Nat.zero_add, Nat.zero_add, Nat.zero_add]

theorem append_assoc (a b c : Trace) : a ++ b ++ c = a ++ (b ++ c) := by
  change Trace.mk _ _ _ _ ⟨_, _, _, _⟩ = Trace.mk _ _ _ _ ⟨_, _, _, _⟩
  simp only [lookups_append, calls_append, progress_append, log_append, results_append,
    Results.succeeded_append, Results.failed_append, Results.skipped_append, Results.errors_append,
    List.append_assoc, Nat.add_assoc]

/-- The traces of a list one after the other. -/
def concat (traces : List Trace) : Trace := traces.foldr (· ++ ·) empty

theorem concat_cons (a : Trace) (traces : List Trace) : concat (a :: traces) = a ++ concat traces := rfl

/-- A part of a trace that is joined by appending lists. -/
theorem part_concat {α : Type} (part : Trace → List α) (hn : part empty = [])
    (ha : ∀ a b, part (a ++ b) = part a ++ part b) (traces : List Trace) :
    part (concat traces) = traces.flatMap part := by
  induction traces with
  | nil => exact hn
  | cons a traces ih => rw [concat_cons, ha, ih, List.flatMap_cons]

end Trace

end DesktopRefresh
