import KarstflowTests.Programs.AltBn128

/-!
# The curve-test program

The program dispatches on the first byte of its instruction data and hands the
rest to the group operation of the runtime.
-/

namespace KarstflowTests.Programs

open KarstflowTests.Library

/-! ## The program -/

inductive ProgramError where
  | invalidInstructionData
  | invalidArgument
  deriving DecidableEq

inductive ProgramEnd where
  | ok
  | error (error : ProgramError)
  /-- stopped by the runtime in a system call -/
  | aborted
  deriving DecidableEq

structure ProgramRun where
  logs : List String
  returnData : Option Bytes
  ending : ProgramEnd
  deriving DecidableEq

def altBn128Add : ℕ := 0
def altBn128Mul : ℕ := 1

/-- The part that the three opcodes share: check the length, call the runtime
on the padded input, hand out the result. -/
def runGroupOp
    (groupOp : GroupOp) (name : String) (operation required : ℕ)
    (padding input : Bytes) : ProgramRun :=
  if input.length < required then
    { logs := [s!"{name}: need {required} bytes, got {input.length}"]
      returnData := none
      ending := .error .invalidInstructionData }
  else
    match groupOp operation (input.take required ++ padding) with
    | .returned 0 result =>
        { logs := [s!"{name}: success"]
          returnData := some result
          ending := .ok }
    | .returned code _ =>
        { logs := [s!"{name}: syscall error {code}"]
          returnData := none
          ending := .error .invalidArgument }
    | .aborted =>
        { logs := []
          returnData := none
          ending := .aborted }

def altBn128Addition (groupOp : GroupOp) (input : Bytes) : ProgramRun :=
  runGroupOp groupOp "alt_bn128_add" altBn128Add 128 [] input

def altBn128Multiplication (groupOp : GroupOp) (input : Bytes) : ProgramRun :=
  runGroupOp groupOp "alt_bn128_mul" altBn128Mul 96 [] input

/-- The second point is left zero, the point at infinity. -/
def altBn128Identity (groupOp : GroupOp) (input : Bytes) : ProgramRun :=
  runGroupOp groupOp "alt_bn128_identity" altBn128Add 64
    (List.replicate 64 0) input

def processInstruction
    (groupOp : GroupOp) (instructionData : Bytes) : ProgramRun :=
  match instructionData with
  | [] =>
      { logs := ["curve-test: no instruction data"]
        returnData := none
        ending := .ok }
  | 0x01 :: input => altBn128Addition groupOp input
  | 0x02 :: input => altBn128Multiplication groupOp input
  | 0x03 :: input => altBn128Identity groupOp input
  | opcode :: _ =>
      { logs := [s!"curve-test: unknown opcode {opcode}"]
        returnData := none
        ending := .ok }

/-! ## What a caller asks for -/

inductive CurveCall where
  | add (first second : Point)
  | multiply (point : Point) (scalar : BitVec 256)
  | identity (point : Point)

namespace CurveCall

def opcode : CurveCall → UInt8
  | add _ _ => 0x01
  | multiply _ _ => 0x02
  | identity _ => 0x03

def input : CurveCall → Bytes
  | add first second => encodePoint first ++ encodePoint second
  | multiply point scalar => encodePoint point ++ beBytes 32 scalar.toNat
  | identity point => encodePoint point

/-- The point that the opcode is for. -/
def result : CurveCall → Point
  | add first second => first + second
  | multiply point scalar => scalar.toNat • point
  | identity point => point

end CurveCall

/-- The program succeeds and returns the given point. -/
def Computes (groupOp : GroupOp) (call : CurveCall) (point : Point) : Prop :=
  (processInstruction groupOp (call.opcode :: call.input)).ending = .ok ∧
    (processInstruction groupOp (call.opcode :: call.input)).returnData =
      some (encodePoint point)

section

variable {groupOp : GroupOp}

theorem runGroupOp_of_returned
    {operation required : ℕ} {input padding result : Bytes} (name : String)
    (sized : input.length = required)
    (returned : groupOp operation (input ++ padding) = .returned 0 result) :
    runGroupOp groupOp name operation required padding input =
      { logs := [s!"{name}: success"]
        returnData := some result
        ending := .ok } := by
  have longEnough : ¬ input.length < required := by omega
  have whole : input.take required = input := by
    rw [← sized, List.take_length]
  rw [runGroupOp, if_neg longEnough, whole, returned]
  rfl

theorem returnData_runGroupOp_of_unsupported
    {operation : ℕ}
    (unsupported :
      ∀ input result, groupOp operation input ≠ .returned 0 result)
    (name : String) (required : ℕ) (padding input : Bytes) :
    (runGroupOp groupOp name operation required padding input).returnData =
      none := by
  rw [runGroupOp]
  split
  · rfl
  · cases reply : groupOp operation (input.take required ++ padding) with
    | aborted => rfl
    | returned code result =>
        cases code with
        | zero => exact absurd reply (unsupported _ result)
        | succ code => rfl

theorem computes_add
    (runtime : GroupRuntime groupOp) (first second : Point) :
    Computes groupOp (.add first second) (first + second) := by
  have sized : (encodePoint first ++ encodePoint second).length = 128 := by
    rw [List.length_append, length_encodePoint, length_encodePoint]
  have returned := runtime.adds first second
  rw [← List.append_nil (encodePoint first ++ encodePoint second)] at returned
  have run := runGroupOp_of_returned "alt_bn128_add" sized returned
  constructor
  · exact congrArg ProgramRun.ending run
  · exact congrArg ProgramRun.returnData run

theorem computes_identity
    (runtime : GroupRuntime groupOp) (point : Point) :
    Computes groupOp (.identity point) point := by
  have returned := runtime.adds point 0
  rw [add_zero] at returned
  have run := runGroupOp_of_returned "alt_bn128_identity"
    (length_encodePoint point) returned
  constructor
  · exact congrArg ProgramRun.ending run
  · exact congrArg ProgramRun.returnData run

/-- The operation code of the multiplication branch is the subtraction of the
runtime. -/
theorem not_computes_multiply
    (runtime : GroupRuntime groupOp) (point : Point) (scalar : BitVec 256)
    (expected : Point) :
    ¬ Computes groupOp (.multiply point scalar) expected := by
  have noData := returnData_runGroupOp_of_unsupported
    runtime.subtraction_unsupported "alt_bn128_mul" 96 []
    (encodePoint point ++ beBytes 32 scalar.toNat)
  intro computes
  have data := computes.2
  rw [CurveCall.opcode, CurveCall.input, processInstruction,
    altBn128Multiplication, altBn128Mul, noData] at data
  cases data

theorem computes_result_iff
    (runtime : GroupRuntime groupOp) (call : CurveCall) :
    Computes groupOp call call.result ↔ call.opcode ≠ 0x02 := by
  cases call with
  | add first second =>
      exact iff_of_true (computes_add runtime first second)
        (show (0x01 : UInt8) ≠ 0x02 by decide)
  | multiply point scalar =>
      exact iff_of_false (not_computes_multiply runtime point scalar _)
        (fun different => different rfl)
  | identity point =>
      exact iff_of_true (computes_identity runtime point)
        (show (0x03 : UInt8) ≠ 0x02 by decide)

end

/-! ## The generator -/

def generator : Point :=
  .some 1 2 (nonsingular_iff_onCurve.mpr (by rw [OnCurve]; norm_num))

theorem computes_doubledGenerator :
    Computes referenceGroupOp (.add generator generator)
        (generator + generator) ∧
      ¬ Computes referenceGroupOp (.multiply generator 2)
        ((2 : BitVec 256).toNat • generator) := by
  have doubled :=
    computes_result_iff groupRuntime_reference (.add generator generator)
  have multiplied :=
    computes_result_iff groupRuntime_reference (.multiply generator 2)
  constructor
  · exact doubled.mpr (by decide)
  · intro computes
    exact multiplied.mp computes rfl

/-- Multiplying the generator by one stops the program. -/
theorem multiply_generator_by_one_aborts :
    GroupRuntime referenceGroupOp ∧
      (processInstruction referenceGroupOp
          (0x02 :: (encodePoint generator ++ beBytes 32 1))).ending =
        .aborted ∧
      ¬ Computes referenceGroupOp (.multiply generator 1) generator := by
  have sized :
      ¬ (encodePoint generator ++ beBytes 32 1).length < 96 := by
    rw [List.length_append, length_encodePoint, length_beBytes]
    decide
  refine ⟨groupRuntime_reference, ?_, ?_⟩
  · rw [processInstruction, altBn128Multiplication, runGroupOp, if_neg sized]
    rfl
  · exact not_computes_multiply groupRuntime_reference generator 1 generator

end KarstflowTests.Programs
