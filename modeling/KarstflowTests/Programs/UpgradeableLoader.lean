import KarstflowTests.Library.AllOrNothing
import KarstflowTests.Programs.UpgradeableDeploy

/-!
# The upgradeable loader

The loader and the system program are not part of the repository.
`UpgradeableLoader` is what the deployment commands rely on: the documented
effect of every instruction that succeeds.  What the loader refuses, and what
the runtime lets fail for reasons of its own, is left open.

`documentedLoader` is one such loader, which also refuses what the real one is
documented to refuse.
-/

namespace KarstflowTests.Programs

open KarstflowTests.Library

/-- An account of the upgradeable loader. -/
inductive LoaderAccount where
  /-- created and not initialized -/
  | blank (space : ℕ)
  /-- the content follows the header -/
  | buffer (authority : Option Pubkey) (content : Bytes)
  | program (programdata : Pubkey)
  /-- the content, and zeros up to so many bytes -/
  | programData (authority : Option Pubkey) (space : ℕ) (content : Bytes)
  deriving DecidableEq

/-- The accounts of the loader; `none` is an address that nobody uses. -/
abbrev UpgLedger := Pubkey → Option LoaderAccount

namespace UpgLedger

def put (ledger : UpgLedger) (key : Pubkey) (account : LoaderAccount) :
    UpgLedger :=
  Function.update ledger key (some account)

def remove (ledger : UpgLedger) (key : Pubkey) : UpgLedger :=
  Function.update ledger key none

end UpgLedger

section Put

variable {ledger : UpgLedger} {key other : Pubkey} {account : LoaderAccount}

@[simp]
theorem put_same (key : Pubkey) (account : LoaderAccount) :
    (ledger.put key account) key = some account := by
  rw [UpgLedger.put, Function.update_self]

theorem put_other (different : other ≠ key) :
    (ledger.put key account) other = ledger other := by
  rw [UpgLedger.put, Function.update_of_ne different]

@[simp]
theorem remove_same (key : Pubkey) : (ledger.remove key) key = none := by
  rw [UpgLedger.remove, Function.update_self]

theorem remove_other (different : other ≠ key) :
    (ledger.remove key) other = ledger other := by
  rw [UpgLedger.remove, Function.update_of_ne different]

end Put

/-! ## Effects -/

/-- The system program creates an account of the loader, filled with zeros. -/
def CreateAccountParams.Effect (params : CreateAccountParams)
    (ledger after : UpgLedger) : Prop :=
  ledger params.toPubkey = none ∧
    after = ledger.put params.toPubkey (.blank params.space)

/-- What a call does when it succeeds.  The calls that no deployment makes are
left open. -/
def LoaderCall.Effect (ledger after : UpgLedger) : LoaderCall → Prop
  | .upgInitBuffer buffer authority =>
      ∃ space,
        ledger buffer = some (.blank (bufferHeaderSize + space)) ∧
          after =
            ledger.put buffer
              (.buffer (some authority) (List.replicate space 0))
  | .upgWrite buffer authority offset chunk =>
      ∃ content,
        ledger buffer = some (.buffer (some authority) content) ∧
          offset.toNat + chunk.length ≤ content.length ∧
          after =
            ledger.put buffer
              (.buffer (some authority)
                (splice content offset.toNat chunk))
  | .upgDeploy _ programdata program buffer authority maxDataLen =>
      ∃ space content,
        ledger program = some (.blank space) ∧
          ledger programdata = none ∧
          ledger buffer = some (.buffer (some authority) content) ∧
          content.length ≤ maxDataLen.toNat ∧
          after =
            ((ledger.remove buffer).put program (.program programdata)).put
              programdata
              (.programData (some authority) maxDataLen.toNat content)
  | .upgUpgrade programdata program buffer _ authority =>
      ∃ space old content,
        ledger program = some (.program programdata) ∧
          ledger programdata =
            some (.programData (some authority) space old) ∧
          ledger buffer = some (.buffer (some authority) content) ∧
          content.length ≤ space ∧
          after =
            (ledger.remove buffer).put programdata
              (.programData (some authority) space content)
  | _ => True

/-- How the programs that a deployment calls carry out an instruction: any
function with the documented effects. -/
structure UpgradeableLoader where
  execute : UpgLedger → ProgramInstruction → Option UpgLedger
  created {ledger after : UpgLedger} {params : CreateAccountParams} :
    params.owner = bpfLoaderUpgradeable →
      execute ledger (.createAccount params) = some after →
        params.Effect ledger after
  called {ledger after : UpgLedger} {loaderCall : LoaderCall} :
    loaderCall.Fits →
      execute ledger (.invoke loaderCall.instruction) = some after →
        loaderCall.Effect ledger after

/-! ## What is left alone -/

/-- The instruction changes no other accounts. -/
def PlannedInstruction.Within (keys : List Pubkey) :
    PlannedInstruction → Prop
  | .create params =>
      params.owner = bpfLoaderUpgradeable ∧ params.toPubkey ∈ keys
  | .call (.upgInitBuffer buffer _) => buffer ∈ keys
  | .call (.upgWrite buffer _ _ _) => buffer ∈ keys
  | .call (.upgDeploy _ programdata program buffer _ _) =>
      programdata ∈ keys ∧ program ∈ keys ∧ buffer ∈ keys
  | .call (.upgUpgrade programdata _ buffer _ _) =>
      programdata ∈ keys ∧ buffer ∈ keys
  | _ => False

/-- The other accounts keep what they hold. -/
theorem keeps_of_execute {loader : UpgradeableLoader}
    {ledger after : UpgLedger} {planned : PlannedInstruction}
    {keys : List Pubkey} {key : Pubkey}
    (within : planned.Within keys)
    (fits : ∀ loaderCall, planned = .call loaderCall → loaderCall.Fits)
    (other : key ∉ keys)
    (executes : loader.execute ledger planned.instruction = some after) :
    after key = ledger key := by
  have apart {changed : Pubkey} (member : changed ∈ keys) : key ≠ changed :=
    fun same => other (same ▸ member)
  unfold PlannedInstruction.Within at within
  split at within
  · obtain ⟨owner, isKey⟩ := within
    obtain ⟨_, rfl⟩ := loader.created owner executes
    exact put_other (apart isKey)
  · obtain ⟨_, _, rfl⟩ := loader.called (fits _ rfl) executes
    exact put_other (apart within)
  · obtain ⟨_, _, _, rfl⟩ := loader.called (fits _ rfl) executes
    exact put_other (apart within)
  · obtain ⟨dataIn, programIn, bufferIn⟩ := within
    obtain ⟨_, _, _, _, _, _, rfl⟩ := loader.called (fits _ rfl) executes
    rw [put_other (apart dataIn), put_other (apart programIn),
      remove_other (apart bufferIn)]
  · obtain ⟨dataIn, bufferIn⟩ := within
    obtain ⟨_, _, _, _, _, _, _, rfl⟩ := loader.called (fits _ rfl) executes
    rw [put_other (apart dataIn), remove_other (apart bufferIn)]
  · exact within.elim

/-! ## A documented loader -/

namespace UpgLedger

/-- The system program creates an account for the loader. -/
def create (ledger : UpgLedger) (params : CreateAccountParams) :
    Option UpgLedger :=
  if ledger params.toPubkey = none ∧ params.owner = bpfLoaderUpgradeable then
    some (ledger.put params.toPubkey (.blank params.space))
  else
    none

/-- The loader carries out a call, or refuses it.  A program that it does not
verify is not deployed. -/
def call (programdataOf : Pubkey → Pubkey) (verifies : Bytes → Bool)
    (ledger : UpgLedger) : LoaderCall → Option UpgLedger
  | .upgInitBuffer buffer authority =>
      match ledger buffer with
      | some (.blank space) =>
          if bufferHeaderSize ≤ space then
            some (ledger.put buffer
              (.buffer (some authority)
                (List.replicate (space - bufferHeaderSize) 0)))
          else
            none
      | _ => none
  | .upgWrite buffer authority offset chunk =>
      match ledger buffer with
      | some (.buffer owner content) =>
          if owner = some authority ∧ 0 ≤ offset ∧
              offset.toNat + chunk.length ≤ content.length then
            some (ledger.put buffer
              (.buffer owner (splice content offset.toNat chunk)))
          else
            none
      | _ => none
  | .upgDeploy _ programdata program buffer authority maxDataLen =>
      match ledger program, ledger buffer, ledger programdata with
      | some (.blank space), some (.buffer owner content), none =>
          if programLen ≤ space ∧ programdata = programdataOf program ∧
              owner = some authority ∧ verifies content ∧
              content.length ≤ maxDataLen.toNat then
            some (((ledger.remove buffer).put program
              (.program programdata)).put programdata
                (.programData owner maxDataLen.toNat content))
          else
            none
      | _, _, _ => none
  | .upgUpgrade programdata program buffer _ authority =>
      match ledger program, ledger buffer, ledger programdata with
      | some (.program itsProgramdata), some (.buffer owner content),
          some (.programData upgradeAuthority space _) =>
          if itsProgramdata = programdata ∧ owner = some authority ∧
              upgradeAuthority = some authority ∧ verifies content ∧
              content.length ≤ space then
            some ((ledger.remove buffer).put programdata
              (.programData owner space content))
          else
            none
      | _, _, _ => none
  | _ => none

/-- One instruction of a transaction. -/
def execute (programdataOf : Pubkey → Pubkey) (verifies : Bytes → Bool)
    (ledger : UpgLedger) : ProgramInstruction → Option UpgLedger
  | .createAccount params => ledger.create params
  | .invoke instruction =>
      if instruction.programId = bpfLoaderUpgradeable then
        (decodeCall .upgradeable instruction.data
          instruction.accounts).bind (ledger.call programdataOf verifies)
      else
        none

end UpgLedger

section Documented

variable {programdataOf : Pubkey → Pubkey} {verifies : Bytes → Bool}
variable {ledger after : UpgLedger} {params : CreateAccountParams}
variable {loaderCall : LoaderCall}

theorem effect_of_create (creates : ledger.create params = some after) :
    params.Effect ledger after := by
  rw [UpgLedger.create] at creates
  split at creates
  · rename_i accepted
    cases creates
    exact ⟨accepted.1, rfl⟩
  · cases creates

theorem effect_of_call
    (accepted :
      ledger.call programdataOf verifies loaderCall = some after) :
    loaderCall.Effect ledger after := by
  cases loaderCall with
  | upgInitBuffer buffer authority =>
      simp only [UpgLedger.call] at accepted
      split at accepted
      · rename_i space isBlank
        split at accepted
        · rename_i room
          cases accepted
          refine ⟨space - bufferHeaderSize, ?_, rfl⟩
          rw [isBlank, Nat.add_sub_cancel' room]
        · cases accepted
      · cases accepted
  | upgWrite buffer authority offset chunk =>
      simp only [UpgLedger.call] at accepted
      split at accepted
      · rename_i owner content isBuffer
        split at accepted
        · rename_i allowed
          obtain ⟨rfl, _, room⟩ := allowed
          cases accepted
          exact ⟨content, isBuffer, room, rfl⟩
        · cases accepted
      · cases accepted
  | upgDeploy payer programdata program buffer authority maxDataLen =>
      simp only [UpgLedger.call] at accepted
      split at accepted
      · rename_i space owner content isBlank isBuffer isFree
        split at accepted
        · rename_i allowed
          obtain ⟨_, _, rfl, _, room⟩ := allowed
          cases accepted
          exact ⟨space, content, isBlank, isFree, isBuffer, room, rfl⟩
        · cases accepted
      · cases accepted
  | upgUpgrade programdata program buffer spill authority =>
      simp only [UpgLedger.call] at accepted
      split at accepted
      · rename_i itsProgramdata owner content upgradeAuthority space old
          isProgram isBuffer isData
        split at accepted
        · rename_i allowed
          obtain ⟨rfl, rfl, rfl, _, room⟩ := allowed
          cases accepted
          exact
            ⟨space, old, content, isProgram, isData, isBuffer, room, rfl⟩
        · cases accepted
      · cases accepted
  | bpfLoaderWrite _ _ _ => cases accepted
  | bpfLoaderFinalize _ => cases accepted
  | upgSetAuthority _ _ _ => cases accepted
  | upgClose _ _ _ => cases accepted

end Documented

/-- The loader with its documented refusals; the derivation of an address and
the check of a program are parameters. -/
def documentedLoader (programdataOf : Pubkey → Pubkey)
    (verifies : Bytes → Bool) : UpgradeableLoader where
  execute := UpgLedger.execute programdataOf verifies
  created _ := effect_of_create
  called {_ _ loaderCall} fits executes := by
    have program := loaderCall.programId_instruction
    have decodes := decodeCall_instruction fits
    rw [UpgLedger.execute] at executes
    split at executes
    · rename_i isLoader
      cases isUpgradeable : loaderCall.loader with
      | upgradeable =>
          rw [isUpgradeable] at decodes
          rw [decodes, Option.bind_some] at executes
          exact effect_of_call executes
      | bpfLoader =>
          rw [isUpgradeable, isLoader] at program
          exact absurd program (by decide +kernel)
    · cases executes

end KarstflowTests.Programs
