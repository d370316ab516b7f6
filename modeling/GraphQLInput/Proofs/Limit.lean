import GraphQLInput.Request
/-!
# Reporting up to a limit

Faults are reported one after the other. What has been reported is what the limit leaves of all the
faults so far, so that nothing behind the cut matters.
-/
namespace GraphQLInput

namespace Fault

variable {limit : Option Nat} {reported fs : List Fault} {f : Fault}

/-- Whether faults stay within a limit, if there is one. -/
def Fit (limit : Option Nat) (fs : List Fault) : Prop :=
  ∀ n, limit = some n → fs.length ≤ n

/-- What a limit leaves of faults. Those that do not fit give way to the notice that there are too
many. -/
def upTo (limit : Option Nat) (fs : List Fault) : List Fault :=
  match limit with
  | none => fs
  | some n => if fs.length ≤ n then fs else fs.take n ++ [⟨.tooMany, none⟩]

theorem fit_none (fs : List Fault) : Fit none fs :=
  fun _ h => nomatch h

theorem fit_some_iff {n : Nat} : Fit (some n) fs ↔ fs.length ≤ n :=
  ⟨fun h => h n rfl, fun h _ hn => Option.some.inj hn ▸ h⟩

theorem fit_nil (limit : Option Nat) : Fit limit [] :=
  fun n _ => Nat.zero_le n

private theorem Fit.of_append {behind : List Fault} (h : Fit limit (fs ++ behind)) : Fit limit fs :=
  fun n hn => Nat.le_trans (List.length_append ▸ Nat.le_add_right _ _) (h n hn)

theorem upTo_of_fit (h : Fit limit fs) : upTo limit fs = fs := by
  cases limit with
  | none => rfl
  | some n => exact if_pos (fit_some_iff.1 h)

/-- Behind the cut nothing is reported. -/
theorem upTo_append (h : ¬ Fit limit fs) (behind : List Fault) :
    upTo limit (fs ++ behind) = upTo limit fs := by
  cases limit with
  | none => exact absurd (fit_none fs) h
  | some n =>
      rw [fit_some_iff, Nat.not_le] at h
      have hbehind : n < (fs ++ behind).length := by
        rw [List.length_append]
        omega
      rw [upTo, upTo, if_neg (Nat.not_le.2 h), if_neg (Nat.not_le.2 hbehind),
        List.take_append_of_le_length (Nat.le_of_lt h)]

theorem upTo_ne_nil (h : fs ≠ []) : upTo limit fs ≠ [] := by
  cases limit with
  | none => exact h
  | some n =>
      rw [upTo]
      split
      · exact h
      · simp

private theorem report_of_fit (h : Fit limit (reported ++ [f])) :
    report limit reported f = .ok (reported ++ [f]) := by
  cases limit with
  | none => rfl
  | some n =>
      rw [fit_some_iff, List.length_append, List.length_singleton] at h
      have hroom : ¬ n ≤ reported.length := by omega
      simp [report, hroom]

private theorem report_of_not_fit (hr : Fit limit reported) (h : ¬ Fit limit (reported ++ [f])) :
    report limit reported f = .error (upTo limit (reported ++ [f])) := by
  cases limit with
  | none => exact absurd (fit_none _) h
  | some n =>
      rw [fit_some_iff] at hr h
      rw [List.length_append, List.length_singleton] at h
      obtain rfl : reported.length = n := by omega
      rw [upTo, if_neg (by simp), List.take_left]
      simp [report]

theorem foldlM_report_of_fit (h : Fit limit (reported ++ fs)) :
    fs.foldlM (report limit) reported = .ok (reported ++ fs) := by
  induction fs generalizing reported with
  | nil =>
      rw [List.append_nil]
      rfl
  | cons f fs ih =>
      rw [List.append_cons] at h ⊢
      rw [List.foldlM_cons, report_of_fit h.of_append]
      exact ih h

theorem foldlM_report_of_not_fit (hr : Fit limit reported) (h : ¬ Fit limit (reported ++ fs)) :
    fs.foldlM (report limit) reported = .error (upTo limit (reported ++ fs)) := by
  induction fs generalizing reported with
  | nil =>
      rw [List.append_nil] at h
      exact absurd hr h
  | cons f fs ih =>
      rw [List.append_cons] at h ⊢
      rw [List.foldlM_cons]
      by_cases hf : Fit limit (reported ++ [f])
      · rw [report_of_fit hf]
        exact ih hf h
      · -- this fault ends the report, and those that follow it stand behind the cut
        rw [report_of_not_fit hr hf, upTo_append hf]
        rfl

end Fault

end GraphQLInput
