import BatchRunner.Proofs.Queue.Recording

/-!
# What the bits of a status tell

The lowest seven bits of a status tell the ways to end apart: all zeros is an exit (`WaitStatus.isExit_iff`), whose
code stands in the eight bits from the eighth on; all ones is a process that is only suspended; anything else is the
signal that killed it (`WaitStatus.isSignal_iff`). What is suspended is kept as the code of an exit, and that code is
never zero. So an exit with code zero is the only success, and the strict policy stops on everything else
(`Termination.told_by_bits`). `WaitStatus.Tells` says the same of a status and an end without the function that
takes one for the other, for statements about where an end comes from.
-/

namespace BatchRunner

namespace WaitStatus

variable (status : WaitStatus)

/-! ## Fields of the word -/

theorem low_eq : status.low.setWidth 32 = status.word &&& 0x7F#32 := by
  apply BitVec.eq_of_toNat_eq
  have hmask : (0x7F#32).toNat = 2 ^ 7 - 1 := rfl
  rw [low, BitVec.toNat_setWidth, BitVec.extractLsb'_toNat, Nat.shiftRight_zero, BitVec.toNat_and, hmask,
    Nat.and_two_pow_sub_one_eq_mod]
  omega

theorem low_eq_iff (value : BitVec 7) : status.low = value ↔ status.word &&& 0x7F#32 = value.setWidth 32 := by
  rw [← low_eq]
  constructor
  · intro h
    rw [h]
  · intro h
    have hback := congrArg (BitVec.setWidth 7) h
    simpa using hback

theorem getLsbD_codeMask (i : Nat) : (0xFF#32).getLsbD i = decide (i < 8) := by
  have hones : (0xFF#32).toNat = 2 ^ 8 - 1 := rfl
  rw [BitVec.getLsbD, hones, Nat.testBit_two_pow_sub_one]

/-- The sign that a shift brings in from above does not reach the code. -/
theorem code_eq : status.code.setWidth 32 = status.word.sshiftRight 8 &&& 0xFF#32 := by
  apply BitVec.eq_of_getLsbD_eq
  intro i hi
  rw [BitVec.getLsbD_and, getLsbD_codeMask, BitVec.getLsbD_setWidth, code, BitVec.getLsbD_extractLsb',
    BitVec.getLsbD_sshiftRight]
  by_cases h : i < 8
  · have hwide : 8 + i < 32 := by omega
    simp [h, hi, hwide]
  · simp [h]

theorem code_shifted : status.word &&& 0xFF00#32 = status.code.setWidth 32 <<< 8 := by
  apply BitVec.eq_of_getLsbD_eq
  intro i hi
  have hmask : 0xFF00#32 = 0xFF#32 <<< 8 := rfl
  rw [BitVec.getLsbD_and, hmask, BitVec.getLsbD_shiftLeft, BitVec.getLsbD_shiftLeft, getLsbD_codeMask,
    BitVec.getLsbD_setWidth, code, BitVec.getLsbD_extractLsb']
  by_cases h : i < 8
  · simp [h]
  · have hback : 8 + (i - 8) = i := by omega
    have hnarrow : i - 8 < 32 := by omega
    simp [h, hi, hback, hnarrow, Bool.and_comm]

theorem code_eq_zero_iff : status.code = 0#8 ↔ status.word &&& 0xFF00#32 = 0#32 := by
  rw [code_shifted]
  constructor
  · intro h
    rw [h]
    rfl
  · intro h
    have hvalue := congrArg BitVec.toNat h
    have hsmall := status.code.isLt
    rw [BitVec.toNat_shiftLeft, BitVec.toNat_setWidth, Nat.shiftLeft_eq, BitVec.toNat_ofNat] at hvalue
    apply BitVec.eq_of_toNat_eq
    rw [BitVec.toNat_ofNat]
    omega

theorem dumpedCore_eq : status.dumpedCore = (status.word &&& 0x80#32 != 0#32) := by
  have hmask : 0x80#32 = BitVec.twoPow 32 7 := rfl
  rw [dumpedCore, hmask, BitVec.and_twoPow]
  cases status.word.getLsbD 7 <;> rfl

/-! ## Ways to end -/

/-- One more than all ones, as a signed byte, is negative, and one more than zero is lost when it is halved. -/
theorem isSignal_of_low : ∀ low : BitVec 7,
    decide (0 < ((low.setWidth 8 + 1).sshiftRight 1).toInt) = (low != 0#7 && low != 0x7F#7) := by
  decide

theorem isExit_iff : status.isExit = true ↔ status.word &&& 0x7F#32 = 0#32 := by
  rw [isExit, beq_iff_eq, low_eq_iff]
  rfl

theorem isSignal_iff : status.isSignal = true ↔
    status.word &&& 0x7F#32 ≠ 0#32 ∧ status.word &&& 0x7F#32 ≠ 0x7F#32 := by
  have hzeros := status.low_eq_iff 0#7
  have hones := status.low_eq_iff 0x7F#7
  rw [isSignal, isSignal_of_low, Bool.and_eq_true, bne_iff_ne, bne_iff_ne, ne_eq, ne_eq, hzeros, hones]
  rfl

/-- A narrow field is read as it is when its word is taken for a signed number. -/
theorem toInt_setWidth {width : Nat} (field : BitVec width) (h : width ≤ 31) :
    (field.setWidth 32).toInt = field.toNat := by
  have hlt := field.isLt
  have hwidth : 2 ^ width ≤ 2 ^ 31 := Nat.pow_le_pow_right (by decide) h
  have hvalue : (field.setWidth 32).toNat = field.toNat := by
    rw [BitVec.toNat_setWidth, Nat.mod_eq_of_lt (by omega)]
  rw [BitVec.toInt_eq_toNat_of_lt (by omega), hvalue]

/-- What a status is taken for, by the bits of its word as a signed number. -/
structure Classified : Prop where
  exit : status.word &&& 0x7F#32 = 0#32 →
    Termination.ofStatus status = .exited (status.word.sshiftRight 8 &&& 0xFF#32).toInt
  death : status.word &&& 0x7F#32 ≠ 0#32 → status.word &&& 0x7F#32 ≠ 0x7F#32 →
    Termination.ofStatus status =
        .signalled (.ofNumber (status.word &&& 0x7F#32).toInt (status.word &&& 0x80#32 != 0#32)) ∧
      1 ≤ (status.word &&& 0x7F#32).toInt ∧ (status.word &&& 0x7F#32).toInt ≤ 126
  suspended : status.word &&& 0x7F#32 = 0x7F#32 →
    Termination.ofStatus status = .exited status.word.toInt ∧ status.word.toInt ≠ 0
  success : (Termination.ofStatus status).isSuccess = true ↔
    status.word &&& 0x7F#32 = 0#32 ∧ status.word &&& 0xFF00#32 = 0#32
  /-- There is a code or a signal, and never both. -/
  either : (Termination.ofStatus status).exitCode?.isSome = !(Termination.ofStatus status).signal?.isSome

/-- What the bits of a status tell of the end of a process. -/
inductive Tells : Termination → Prop
  | exit (hzeros : status.word &&& 0x7F#32 = 0#32) :
    Tells (.exited (status.word.sshiftRight 8 &&& 0xFF#32).toInt)
  | death {number : Int} (hzeros : status.word &&& 0x7F#32 ≠ 0#32) (hones : status.word &&& 0x7F#32 ≠ 0x7F#32)
    (hnumber : number = (status.word &&& 0x7F#32).toInt) :
    Tells (.signalled ⟨number, Os.describeSignal number, status.word &&& 0x80#32 != 0#32⟩)
  | suspended (hones : status.word &&& 0x7F#32 = 0x7F#32) : Tells (.exited status.word.toInt)

end WaitStatus

namespace Termination

variable {status : WaitStatus}

theorem ofStatus_exit (h : status.word &&& 0x7F#32 = 0#32) : ofStatus status = .exited status.code.toNat := by
  rw [ofStatus, if_pos (status.isExit_iff.2 h)]

theorem ofStatus_death (hzeros : status.word &&& 0x7F#32 ≠ 0#32) (hones : status.word &&& 0x7F#32 ≠ 0x7F#32) :
    ofStatus status = .signalled (.ofNumber status.low.toNat status.dumpedCore) := by
  rw [ofStatus, if_neg (mt status.isExit_iff.1 hzeros), if_pos (status.isSignal_iff.2 ⟨hzeros, hones⟩)]

theorem ofStatus_suspended (h : status.word &&& 0x7F#32 = 0x7F#32) :
    ofStatus status = .exited status.word.toInt := by
  have hexit : ¬ status.isExit = true := by
    rw [status.isExit_iff, h]
    decide
  have hsignal : ¬ status.isSignal = true := fun hsignal => (status.isSignal_iff.1 hsignal).2 h
  rw [ofStatus, if_neg hexit, if_neg hsignal]

theorem suspended_ne_zero (h : status.word &&& 0x7F#32 = 0x7F#32) : status.word.toInt ≠ 0 := by
  intro hzero
  have hword : status.word = 0#32 := BitVec.eq_of_toInt_eq (by rw [hzero]; rfl)
  rw [hword] at h
  exact absurd h (by decide)

theorem isSuccess_iff {termination : Termination} : termination.isSuccess = true ↔ termination = .exited 0 := by
  rw [isSuccess, beq_iff_eq]

theorem isSuccess_ofStatus : (ofStatus status).isSuccess = true ↔
    status.word &&& 0x7F#32 = 0#32 ∧ status.word &&& 0xFF00#32 = 0#32 := by
  rw [isSuccess_iff, ← status.code_eq_zero_iff]
  by_cases hzeros : status.word &&& 0x7F#32 = 0#32
  · rw [ofStatus_exit hzeros, exited.injEq]
    constructor
    · intro hcode
      exact ⟨hzeros, BitVec.eq_of_toNat_eq (Int.natCast_eq_zero.1 hcode)⟩
    · rintro ⟨-, hcode⟩
      rw [hcode]
      rfl
  · refine iff_of_false ?_ fun h => hzeros h.1
    by_cases hones : status.word &&& 0x7F#32 = 0x7F#32
    · rw [ofStatus_suspended hones, exited.injEq]
      exact suspended_ne_zero hones
    · rw [ofStatus_death hzeros hones]
      nofun

theorem classified (status : WaitStatus) : status.Classified where
  exit h := by rw [ofStatus_exit h, ← status.code_eq, WaitStatus.toInt_setWidth _ (by decide)]
  death hzeros hones := by
    have hnumber : (status.word &&& 0x7F#32).toInt = status.low.toNat := by
      rw [← status.low_eq, WaitStatus.toInt_setWidth _ (by decide)]
    have hlow : status.low.toNat ≠ 0 := fun hlow =>
      hzeros ((status.low_eq_iff 0#7).1 (BitVec.eq_of_toNat_eq hlow))
    have hhigh : status.low.toNat ≠ 127 := fun hhigh =>
      hones ((status.low_eq_iff 0x7F#7).1 (BitVec.eq_of_toNat_eq hhigh))
    have hlt := status.low.isLt
    rw [ofStatus_death hzeros hones, hnumber, status.dumpedCore_eq]
    refine ⟨rfl, ?_, ?_⟩ <;> omega
  suspended h := ⟨ofStatus_suspended h, suspended_ne_zero h⟩
  success := isSuccess_ofStatus
  either := by cases ofStatus status <;> rfl

/-- A status is taken for the one end that its bits tell. -/
theorem tells_iff {termination : Termination} : status.Tells termination ↔ termination = ofStatus status := by
  have hclassified := classified status
  constructor
  · intro h
    cases h with
    | exit hzeros => exact (hclassified.exit hzeros).symm
    | death hzeros hones hnumber =>
      rw [(hclassified.death hzeros hones).1, hnumber]
      rfl
    | suspended hones => exact (hclassified.suspended hones).1.symm
  · rintro rfl
    by_cases hzeros : status.word &&& 0x7F#32 = 0#32
    · rw [hclassified.exit hzeros]
      exact .exit hzeros
    · by_cases hones : status.word &&& 0x7F#32 = 0x7F#32
      · rw [(hclassified.suspended hones).1]
        exact .suspended hones
      · rw [(hclassified.death hzeros hones).1]
        exact .death hzeros hones rfl

/-- A status is an exit, a death or a suspension by its lowest bits, and a success if it is an exit and the bits of
the code are zero. Where the hooks that judge are left out, the policy that is built in stops the batch on every
status but those. -/
theorem told_by_bits {κ W : Type} (status : WaitStatus) :
    status.Classified ∧
    ∀ (hooks : Hooks κ W) (hostParallelism : Nat) (task : Task κ) (w : W), hooks.finished = none →
      hooks.signalled = none → task.termination = some (ofStatus status) →
      ((hooks.terminated (QueueOptions.builtIn hostParallelism).policy task w).1 = .stop ↔
        (ofStatus status).isSuccess = false) := by
  refine ⟨classified status, fun hooks hostParallelism task w hfinished hsignalled htermination => ?_⟩
  have hnone : hooks.judges (ofStatus status) = false := by
    cases ofStatus status <;> simp [Hooks.judges, hfinished, hsignalled]
  have hverdict : (hooks.terminated Policy.strict task w).1 = Policy.strict.verdict (ofStatus status) :=
    Hooks.terminated_of_judges_eq_false htermination hnone rfl
  have hproceed : Policy.strict.verdict (ofStatus status) = .proceed ↔ (ofStatus status).isSuccess = true :=
    Policy.verdict_strict.trans isSuccess_iff.symm
  show (hooks.terminated Policy.strict task w).1 = .stop ↔ _
  rw [hverdict, ← Bool.not_eq_true, ← hproceed]
  cases Policy.strict.verdict (ofStatus status) <;> simp

/-- The end of a task by a fault, of which an image was left. -/
def faultedTask : Task Nat :=
  { Task.queued (.ofNat 0) ⟨"cc", [], [], none⟩ 0 false 0 with termination := some (ofStatus ⟨0x8B#32⟩) }

/-- A fault stops the batch; an exit with zero does not, whatever is in the upper half of its word; a word of all ones
is a suspension. -/
theorem told_by_bits_of_three :
    ofStatus ⟨0x8B#32⟩ = .signalled ⟨11, "Segmentation fault", true⟩ ∧
    ofStatus ⟨0xFFFFFFFF#32⟩ = .exited (-1) ∧
    (ofStatus ⟨0xABCD0000#32⟩).isSuccess = true ∧
    (({} : Hooks Nat Nat).terminated (QueueOptions.builtIn 4).policy faultedTask 0).1 = .stop := by
  obtain ⟨hfault, hpolicy⟩ := told_by_bits (κ := Nat) (W := Nat) ⟨0x8B#32⟩
  obtain ⟨hones, -⟩ := told_by_bits (κ := Nat) (W := Nat) ⟨0xFFFFFFFF#32⟩
  obtain ⟨hupper, -⟩ := told_by_bits (κ := Nat) (W := Nat) ⟨0xABCD0000#32⟩
  have hdeath := (hfault.death (by decide) (by decide)).1
  refine ⟨hdeath.trans (by decide), (hones.suspended (by decide)).1, hupper.success.2 (by decide), ?_⟩
  refine (hpolicy {} 4 faultedTask 0 rfl rfl rfl).2 ?_
  rw [hdeath]
  rfl

end Termination

end BatchRunner
