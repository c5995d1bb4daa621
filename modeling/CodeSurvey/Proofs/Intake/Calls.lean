import CodeSurvey.Proofs.Intake.Unpacking

/-!
# A budget under any calls

A budget is asked for entries, about headers and for allowances, it is charged for files
and told to stop.  Whatever it is called for and in whatever order, the first reason to
stop is kept and given from then on, and the counters only grow.  The ceilings hold if the
caller keeps to a discipline: each file that is charged was granted an entry of its own
after the file before it, and has no more bytes than were allowed at that moment.
-/

namespace CodeSurvey.Budget

/-- What a budget can be called for. -/
inductive Call where
  | beginEntry
  | screen (unpacked packed : Option Nat)
  | allowance
  | commit (written : Nat)
  | stop (reason : StopReason)
deriving DecidableEq, Repr

/-- What a budget answers. -/
inductive Answer where
  | entry (granted : Except StopReason Unit)
  | screened (passed : Except EntrySkip Unit)
  | allowed (cap : Allowance)
  | charged
  | stopped (reason : StopReason)

/-- The answer to a call, and the budget after it. -/
def call (b : Budget) : Call → Answer × Budget
  | .beginEntry => (.entry b.beginEntry.1, b.beginEntry.2)
  | .screen unpacked packed => (.screened (b.screen unpacked packed), b)
  | .allowance => (.allowed b.allowance, b)
  | .commit written => (.charged, b.commit written)
  | .stop reason => (.stopped ((b.stop reason).stopped.getD reason), b.stop reason)

/-- The budget after some calls. -/
def after (b : Budget) (calls : List Call) : Budget := calls.foldl (fun b c ↦ (b.call c).2) b

/-- The answers to some calls. -/
def answers (b : Budget) : List Call → List Answer
  | [] => []
  | c :: rest => (b.call c).1 :: answers (b.call c).2 rest

/-- The reason to stop that an answer gives. -/
def Answer.reason? : Answer → Option StopReason
  | .entry (.error reason) => some reason
  | .stopped reason => some reason
  | _ => none

namespace Call

/-- Is a file charged? -/
def isCommit : Call → Bool
  | commit _ => true
  | _ => false

theorem exists_of_isCommit {c : Call} (h : c.isCommit = true) : ∃ written, c = commit written := by
  cases c with
  | commit written => exact ⟨written, rfl⟩
  | _ => exact nomatch h

/-- How many bytes are charged. -/
def written : Call → Nat
  | commit n => n
  | _ => 0

/-- Is the budget asked for something? -/
def isQuestion : Call → Bool
  | beginEntry | screen _ _ | allowance => true
  | _ => false

end Call

variable {b : Budget}

theorem after_cons (b : Budget) (c : Call) (rest : List Call) :
    b.after (c :: rest) = (b.call c).2.after rest := rfl

theorem call_beginEntry_of_refusal {reason : StopReason} (h : b.refusal? = some reason) :
    b.call .beginEntry = (.entry (.error reason), b.stop reason) := by
  rw [call, beginEntry, h]

theorem call_beginEntry_of_refusal?_eq_none (h : b.refusal? = none) :
    b.call .beginEntry = (.entry (.ok ()), b) := by
  rw [call, beginEntry, h]

/-! ## The reason to stop -/

/-- A reason that is given is kept, unless there is one already. -/
theorem stopped_call (b : Budget) (c : Call) :
    (b.call c).2.stopped = b.stopped.or (b.call c).1.reason? := by
  cases c with
  | beginEntry =>
    cases hrefusal : b.refusal? with
    | some reason =>
      rw [call_beginEntry_of_refusal hrefusal, stopped_stop]
      cases b.stopped <;> rfl
    | none =>
      rw [call_beginEntry_of_refusal?_eq_none hrefusal, (refusal?_eq_none_iff.mp hrefusal).1]
      rfl
  | stop reason =>
    rw [call, stopped_stop]
    cases b.stopped <;> rfl
  | _ => exact Option.or_none.symm

/-- The first reason that is given is the one that is kept. -/
theorem stopped_after (b : Budget) (calls : List Call) :
    (b.after calls).stopped = b.stopped.or ((b.answers calls).findSome? Answer.reason?) := by
  induction calls generalizing b with
  | nil => exact Option.or_none.symm
  | cons c rest ih =>
    rw [after_cons, ih, stopped_call, Option.or_assoc, answers, List.findSome?_cons]
    cases (b.call c).1.reason? <;> rfl

theorem stopped_after_of_stopped {reason : StopReason} (h : b.stopped = some reason)
    (calls : List Call) : (b.after calls).stopped = some reason := by
  rw [stopped_after, h, Option.some_or]

/-- Whoever asks for an entry, or for a stop, is given the reason that is kept. -/
theorem answers_of_stopped {reason : StopReason} (h : b.stopped = some reason) :
    (b.call .beginEntry).1 = .entry (.error reason) ∧
      ∀ other, (b.call (.stop other)).1 = .stopped reason := by
  refine ⟨?_, fun other ↦ ?_⟩
  · rw [call_beginEntry_of_refusal (refusal?_of_stopped h)]
  · rw [call, stop_of_stopped h, h, Option.getD_some]

/-! ## The counters -/

theorem limits_call (b : Budget) (c : Call) : (b.call c).2.limits = b.limits := by
  cases c with
  | beginEntry =>
    cases hrefusal : b.refusal? with
    | some reason => rw [call_beginEntry_of_refusal hrefusal, stop]
    | none => rw [call_beginEntry_of_refusal?_eq_none hrefusal]
  | _ => rfl

/-- What a question changes is the reason to stop, if it changes anything. -/
theorem call_of_isQuestion {c : Call} (h : c.isQuestion = true) (b : Budget) :
    (b.call c).2 = { b with stopped := (b.call c).2.stopped } := by
  cases c with
  | beginEntry =>
    cases hrefusal : b.refusal? with
    | some reason => rw [call_beginEntry_of_refusal hrefusal, stop]
    | none => rw [call_beginEntry_of_refusal?_eq_none hrefusal]
  | screen | allowance => rfl
  | commit | stop => exact nomatch h

/-- Only a charge changes the counters. -/
theorem counters_call {c : Call} (h : c.isCommit = false) (b : Budget) :
    (b.call c).2.fileCount = b.fileCount ∧ (b.call c).2.totalBytes = b.totalBytes := by
  cases c with
  | beginEntry =>
    rw [call_of_isQuestion rfl]
    exact ⟨rfl, rfl⟩
  | commit => exact nomatch h
  | _ => exact ⟨rfl, rfl⟩

/-- Each charge counts for one file. -/
theorem fileCount_after (b : Budget) (calls : List Call) :
    (b.after calls).fileCount = b.fileCount + calls.countP Call.isCommit := by
  induction calls generalizing b with
  | nil => rfl
  | cons c rest ih =>
    rw [after_cons, ih]
    cases hc : c.isCommit with
    | true =>
      obtain ⟨written, rfl⟩ := Call.exists_of_isCommit hc
      rw [List.countP_cons_of_pos hc, Nat.add_comm _ 1, ← Nat.add_assoc]
      rfl
    | false => rw [(counters_call hc b).1, List.countP_cons_of_neg (by simp [hc])]

/-- A total that can be recorded only grows, and can be recorded again. -/
theorem totalBytes_call (h : b.totalBytes ≤ maxTotal) (c : Call) :
    b.totalBytes ≤ (b.call c).2.totalBytes ∧ (b.call c).2.totalBytes ≤ maxTotal := by
  cases hc : c.isCommit with
  | true =>
    obtain ⟨written, rfl⟩ := Call.exists_of_isCommit hc
    exact ⟨Nat.le_min.mpr ⟨Nat.le_add_right .., h⟩, Nat.min_le_right ..⟩
  | false =>
    rw [(counters_call hc b).2]
    exact ⟨Nat.le_refl _, h⟩

theorem totalBytes_after (h : b.totalBytes ≤ maxTotal) (calls : List Call) :
    b.totalBytes ≤ (b.after calls).totalBytes ∧ (b.after calls).totalBytes ≤ maxTotal := by
  induction calls generalizing b with
  | nil => exact ⟨Nat.le_refl _, h⟩
  | cons c rest ih =>
    obtain ⟨hgrows, hmax⟩ := totalBytes_call h c
    obtain ⟨hgrows', hmax'⟩ := ih hmax
    exact ⟨Nat.le_trans hgrows hgrows', hmax'⟩

/-! ## The ceilings -/

namespace Call

/-- Is there a granted entry that no file was charged for yet, after a call? -/
def leavesGranted (b : Budget) (granted : Bool) : Call → Bool
  | beginEntry => granted || b.refusal?.isNone
  | commit _ => false
  | _ => granted

/-- A file is charged only for a granted entry, and with no more bytes than are allowed. -/
def Keeps (b : Budget) (granted : Bool) : Call → Prop
  | commit written => granted = true ∧ written ≤ b.allowance.bytes
  | _ => True

instance (b : Budget) (granted : Bool) : (c : Call) → Decidable (c.Keeps b granted)
  | commit written => inferInstanceAs (Decidable (granted = true ∧ written ≤ b.allowance.bytes))
  | beginEntry | screen _ _ | allowance | stop _ => isTrue trivial

end Call

/-- All calls keep to the discipline, where `granted` tells whether an entry was granted after
the last file before them. -/
def Disciplined (b : Budget) (granted : Bool) : List Call → Prop
  | [] => True
  | c :: rest => c.Keeps b granted ∧ Disciplined (b.call c).2 (c.leavesGranted b granted) rest

/-- The discipline can be checked call by call. -/
def decideDisciplined (b : Budget) (granted : Bool) :
    (calls : List Call) → Decidable (b.Disciplined granted calls)
  | [] => isTrue trivial
  | c :: rest =>
    have := decideDisciplined (b.call c).2 (c.leavesGranted b granted) rest
    inferInstanceAs (Decidable (_ ∧ _))

instance (b : Budget) (granted : Bool) (calls : List Call) : Decidable (b.Disciplined granted calls) :=
  b.decideDisciplined granted calls

/-- The counters are within their ceilings, and there is room for a file whose entry was
granted. -/
structure Within (b : Budget) (granted : Bool) : Prop where
  fileCount_le : b.fileCount ≤ b.limits.maxFileCount.toNat
  totalBytes_le : b.totalBytes ≤ b.limits.maxTotalBytes.toNat
  room : granted = true → b.fileCount < b.limits.maxFileCount.toNat

theorem Within.start (limits : Limits) : (start limits).Within false :=
  ⟨Nat.zero_le _, Nat.zero_le _, nofun⟩

/-- A call that keeps to the discipline keeps the counters within their ceilings, and what it
charges is added to the total. -/
theorem Within.call {granted : Bool} (h : b.Within granted) {c : Call} (hc : c.Keeps b granted) :
    (b.call c).2.Within (c.leavesGranted b granted) ∧
      (b.call c).2.totalBytes = b.totalBytes + c.written := by
  cases hcommit : c.isCommit with
  | true =>
    obtain ⟨written, rfl⟩ := Call.exists_of_isCommit hcommit
    obtain ⟨hgranted, hwritten⟩ := hc
    have htotal := totalBytes_commit hwritten h.totalBytes_le
    have hroom := Nat.le_trans hwritten b.allowance_le_remaining
    refine ⟨⟨h.room hgranted, ?_, nofun⟩, htotal⟩
    change (b.commit written).totalBytes ≤ b.limits.maxTotalBytes.toNat
    have hle := h.totalBytes_le
    omega
  | false =>
    obtain ⟨hcount, htotal⟩ := counters_call hcommit b
    have hwritten : c.written = 0 := by
      cases c with
      | commit => exact nomatch hcommit
      | _ => rfl
    refine ⟨⟨?_, ?_, ?_⟩, by rw [htotal, hwritten, Nat.add_zero]⟩
    · rw [hcount, limits_call]
      exact h.fileCount_le
    · rw [htotal, limits_call]
      exact h.totalBytes_le
    · intro hleaves
      rw [hcount, limits_call]
      cases c with
      | commit => exact nomatch hcommit
      | beginEntry =>
        rcases Bool.or_eq_true_iff.mp hleaves with hgranted | hnone
        · exact h.room hgranted
        · exact (refusal?_eq_none_iff.mp (Option.isNone_iff_eq_none.mp hnone)).2
      | _ => exact h.room hleaves

/-- Calls that keep to the discipline keep the counters within their ceilings, and the total is
what was charged. -/
theorem Within.after {granted : Bool} (h : b.Within granted) {calls : List Call}
    (hcalls : b.Disciplined granted calls) :
    (∃ granted', (b.after calls).Within granted') ∧
      (b.after calls).totalBytes = b.totalBytes + (calls.map Call.written).sum := by
  induction calls generalizing b granted with
  | nil => exact ⟨⟨granted, h⟩, rfl⟩
  | cons c rest ih =>
    obtain ⟨hc, hrest⟩ := hcalls
    obtain ⟨hwithin, htotal⟩ := h.call hc
    obtain ⟨hafter, hsum⟩ := ih hwithin hrest
    refine ⟨hafter, ?_⟩
    rw [after_cons, hsum, htotal, List.map_cons, List.sum_cons, Nat.add_assoc]

theorem limits_after (b : Budget) (calls : List Call) : (b.after calls).limits = b.limits := by
  induction calls generalizing b with
  | nil => rfl
  | cons c rest ih => rw [after_cons, ih, limits_call]

/-- What is refused while nothing has stopped the budget is one file too many. -/
theorem call_beginEntry_eq_error_iff (hstopped : b.stopped = none) {reason : StopReason} :
    (b.call .beginEntry).1 = .entry (.error reason) ↔
      reason = .fileCount ∧ b.limits.maxFileCount.toNat ≤ b.fileCount := by
  have hrefusal : b.refusal? = if b.limits.maxFileCount.toNat ≤ b.fileCount then some .fileCount else none := by
    rw [refusal?, hstopped]
  by_cases hfull : b.limits.maxFileCount.toNat ≤ b.fileCount
  · rw [if_pos hfull] at hrefusal
    rw [call_beginEntry_of_refusal hrefusal]
    simp [hfull, eq_comm]
  · rw [if_neg hfull] at hrefusal
    rw [call_beginEntry_of_refusal?_eq_none hrefusal]
    simp [hfull]

/-- A fresh budget under any calls.  The first reason to stop that is given is kept, and given
to whoever asks from then on.  Each charge counts for one file, the counters never go down,
and a question changes at most the reason to stop.  If all calls keep to the discipline, the
counters are within their ceilings, the total is what was charged, and while nothing has
stopped the budget an entry is refused exactly when there are as many files as there may be. -/
theorem keeps_any_calls (limits : Limits) (calls : List Call) :
    let b := (start limits).after calls
    b.stopped = ((start limits).answers calls).findSome? Answer.reason? ∧
      (∀ reason, b.stopped = some reason → ∀ later, (b.after later).stopped = some reason ∧
        ((b.after later).call .beginEntry).1 = .entry (.error reason) ∧
        ∀ other, ((b.after later).call (.stop other)).1 = .stopped reason) ∧
      b.fileCount = calls.countP Call.isCommit ∧
      (∀ later, b.fileCount ≤ (b.after later).fileCount ∧ b.totalBytes ≤ (b.after later).totalBytes) ∧
      (∀ c : Call, c.isQuestion = true → (b.call c).2 = { b with stopped := (b.call c).2.stopped }) ∧
      ((start limits).Disciplined false calls →
        b.fileCount ≤ limits.maxFileCount.toNat ∧ b.totalBytes ≤ limits.maxTotalBytes.toNat ∧
        b.totalBytes = (calls.map Call.written).sum ∧
        (b.stopped = none → ((∃ reason, (b.call .beginEntry).1 = .entry (.error reason)) ↔
          b.fileCount = limits.maxFileCount.toNat))) := by
  intro b
  have hmax : b.totalBytes ≤ maxTotal := (totalBytes_after (b := start limits) (Nat.zero_le _) calls).2
  refine ⟨?_, fun reason hstopped later ↦ ?_, ?_, fun later ↦ ⟨?_, (totalBytes_after hmax later).1⟩,
    fun c hc ↦ call_of_isQuestion hc b, fun hcalls ↦ ?_⟩
  · exact (stopped_after _ calls).trans (Option.none_or ..)
  · have hlater := stopped_after_of_stopped hstopped later
    exact ⟨hlater, answers_of_stopped hlater⟩
  · exact (fileCount_after _ calls).trans (Nat.zero_add _)
  · exact fileCount_after b later ▸ Nat.le_add_right ..
  · obtain ⟨⟨granted, hwithin⟩, hsum⟩ := (Within.start limits).after hcalls
    have hlimits : b.limits = limits := limits_after _ calls
    have hcount := hlimits ▸ hwithin.fileCount_le
    refine ⟨hcount, hlimits ▸ hwithin.totalBytes_le, hsum.trans (Nat.zero_add _), fun hstopped ↦ ?_⟩
    simp only [call_beginEntry_eq_error_iff hstopped, exists_eq_left, hlimits]
    exact ⟨Nat.le_antisymm hcount, fun h ↦ Nat.le_of_eq h.symm⟩

/-- Two files that fill up the largest total there can be. The third entry is refused. -/
theorem keeps_any_calls_largest_total :
    let limits : Limits := { Limits.builtin with
      maxTotalBytes := 0xffffffffffffffff, maxFileCount := 2, maxFileSize := 0xffffffffffffffff }
    let calls : List Call := [.beginEntry, .screen (some 7) (some 0), .allowance,
      .commit 0xfffffffffffffffe, .beginEntry, .beginEntry, .commit 1]
    let b := (start limits).after calls
    (start limits).Disciplined false calls ∧ b.stopped = none ∧ b.fileCount = 2 ∧
      b.totalBytes = 0xffffffffffffffff ∧ ∃ reason, (b.call .beginEntry).1 = .entry (.error reason) := by
  intro limits calls b
  have hcalls : (start limits).Disciplined false calls := by decide +kernel
  obtain ⟨-, -, hfiles, -, -, hwithin⟩ := keeps_any_calls limits calls
  obtain ⟨-, -, htotal, hrefused⟩ := hwithin hcalls
  have hstopped : b.stopped = none := by decide
  exact ⟨hcalls, hstopped, hfiles, htotal, (hrefused hstopped).mpr hfiles⟩

end CodeSurvey.Budget
