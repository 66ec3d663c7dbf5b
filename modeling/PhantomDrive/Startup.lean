/-
PhantomDrive/Startup.lean

`main` from power-up to its loop: the card is brought up, the statics are set, the decoy is
mounted, and only then the device shows itself on USB.

Main result: `main_withinCard`.  Behind a card of version 2.0 that conforms, whatever the
host does in any run that follows, the capacity it is told is the one the card really has
for it, and nothing is written beyond the end of the card.
-/
import PhantomDrive.SdCard
import PhantomDrive.UnlockInit
import PhantomDrive.LockState

namespace PhantomDrive

open Dialogue

/-! ### `main` -/

/-- `main` up to its loop: the device with the card size found, and the state the loop starts in.
Behind a card that is not brought up, `main` stays where it is. -/
def mainStart (dev : Device) (mount : Mount) (io : InitIo) (card : Card) (para : SdPara) :
    SdProg (Option (Device × Sys)) := do
  let init ← sdCardInit para
  if init.1 ≠ .success then return none
  let dev := { dev with emmcSecNum := init.2.emmcSecNum }
  -- `phantomdrive_init` has left the drive locked
  let outcome := unlockFileInit dev true mount io (Disk.init card)
  return some (dev, Sys.init dev outcome.disk.card)

/-- With a card that conforms, the loop is reached, with the size of the card. -/
theorem mainStart_card (dev : Device) (mount : Mount) (io : InitIo) (card : Card) (para : SdPara)
    (c : SdCard) (hversion : c.csd.structureVersion = 1) (hfits : c.csd.sectors < 2 ^ 32)
    (s : SdBus) :
    (mainStart dev mount io card para).wp c.partner (fun start s' => s'.Up ∧ ∃ size disk,
      size.toNat = c.csd.sectors
        ∧ start = some ({ dev with emmcSecNum := size },
            Sys.init { dev with emmcSecNum := size } disk)) s := by
  rw [mainStart, wp_bind]
  refine wp_mono (sdCardInit_card c s para) ?_
  rintro ⟨sta, para'⟩ s' ⟨rfl, hread, hup⟩
  refine ⟨hup, para'.emmcSecNum, _, ?_, rfl⟩
  have hsize : para'.emmcSecNum = (sdReadCsd true c.csd.word SdParameter.zero).emmcSecNum :=
    congrArg SdParameter.emmcSecNum (hread.csd SdParameter.zero)
  rw [hsize]
  exact sdReadCsd_version2 c.csd SdParameter.zero hversion hfits

/-! ### The runs that follow -/

/-- A chunk handed to the card lies inside it. -/
def Action.InsideCard (sectors : ℕ) : Action → Prop
  | .cardWrite _ _ lba data => lba.toNat + data.length ≤ sectors
  | _ => True

/-- **Every write lies inside the card**, in every run. -/
theorem writes_insideCard (dev : Device) (s : Sys)
    (h : ∀ a ∈ s.drive.log, a.InsideCard dev.emmcSecNum.toNat) (events : List Event) :
    ∀ a ∈ (Runs.run (step dev) s events).drive.log, a.InsideCard dev.emmcSecNum.toNat := by
  refine Runs.invariant_of_forall
    (P := fun s : Sys => ∀ a ∈ s.drive.log, a.InsideCard dev.emmcSecNum.toNat) ?_ h events
  intro s e hs
  have happend : ∀ {log : List Action} {a : Action}, log = s.drive.log ++ [a] →
      a.InsideCard dev.emmcSecNum.toNat → ∀ a' ∈ log, a'.InsideCard dev.emmcSecNum.toNat := by
    rintro log a rfl ha a' hmem
    rcases List.mem_append.mp hmem with hold | hnew
    · exact hs a' hold
    · rwa [List.mem_singleton.mp hnew]
  cases e with
  | bulkOut packet =>
    rw [step_log_interrupt dev fun io => Event.noConfusion]
    exact hs
  | bulkIn =>
    rw [step_log_interrupt dev fun io => Event.noConfusion]
    exact hs
  | main io =>
    rcases mainStep_log dev io s with h | ⟨preqnum, lba, -, h⟩ | ⟨stream, data, -, hpos, hcard, hlen, h⟩
      | ⟨password, salt, -, h⟩
    · show ∀ a ∈ (mainStep dev io s).drive.log, _
      rw [h]
      exact hs
    · exact happend h trivial
    · have hchunk : 0 < stream.chunkSectors ∧ stream.chunkSectors < 2 ^ 32 := by
        unfold WriteStream.chunkSectors
        omega
      refine happend h ?_
      show (chunkLba dev stream s.drive).toNat + data.length ≤ _
      rw [hlen]
      exact (outOfCard_eq_false_iff hchunk.1 hchunk.2).mp hcard
    · exact happend h trivial

/-- **From power-up.**  With a card of version 2.0 that conforms and is larger than the decoy, the
start-up comes to its end, and however it went, `main` has reached its loop, and in every run that
follows the reported capacity is the size of the decoy until the drive is unlocked and the rest of
the card from then on, and no chunk handed to the card reaches beyond its end. -/
theorem main_withinCard (dev : Device) (mount : Mount) (io : InitIo) (card : Card) (para : SdPara)
    (c : SdCard) (hversion : c.csd.structureVersion = 1) (hfits : c.csd.sectors < 2 ^ 32)
    (hlarger : dev.lockedSectors.toNat ≤ c.csd.sectors) (s : SdBus) :
    (∃ t start s', Reaches (mainStart dev mount io card para) t (.done start)
        ∧ c.partner.Conversation s t s')
      ∧ ∀ t start s', Reaches (mainStart dev mount io card para) t (.done start) →
          c.partner.Conversation s t s' →
          ∃ dev' sys, start = some (dev', sys) ∧ ∀ events,
            let r := Runs.run (step dev') sys events
            r.drive.bot.capacity.toNat
                = (if r.drive.phantom.state = .unlocked
                  then c.csd.sectors - dev.lockedSectors.toNat else dev.lockedSectors.toNat)
              ∧ ∀ a ∈ r.drive.log, a.InsideCard c.csd.sectors := by
  have hwp := mainStart_card dev mount io card para c hversion hfits s
  refine ⟨wp_ends c.replies hwp, fun t start s' hreach hconv => ?_⟩
  obtain ⟨-, size, disk, hsize, rfl⟩ := wp_result hwp hreach hconv
  refine ⟨_, _, rfl, fun events => ⟨?_, ?_⟩⟩
  · have hcapacity := (lockInv_run { dev with emmcSecNum := size } disk events).capacity
    rw [hcapacity]
    split
    · rename_i hstate
      rw [hstate]
      show (size - dev.lockedSectors).toNat = _
      rw [UInt32.toNat_sub_of_le _ _ (UInt32.le_iff_toNat_le.mpr (by omega)), hsize]
    · rename_i hstate
      exact congrArg UInt32.toNat (capacityIn_of_ne hstate)
  · have hwrites := writes_insideCard { dev with emmcSecNum := size }
      (Sys.init { dev with emmcSecNum := size } disk)
      (fun a hmem => absurd hmem List.not_mem_nil) events
    rwa [← hsize]

/-- Transfers at time zero whose polls run out, and nothing for `f_mkfs` to do. -/
def sampleInitIo : InitIo where
  now := 0
  reads := fun _ _ => ⟨0, [], [], [], [], none⟩
  mkfsCalls := []
  mkfsResult := .ok
  nowAgain := 0
  readsAgain := fun _ _ => ⟨0, [], [], [], [], none⟩

/-- A card of 16 GiB that was left in the transfer state. -/
theorem main_withinCard_sixteen_gigabyte :
    let c : SdCard := ⟨0xAAAA, 1 <<< 126 ||| 0x7FFF <<< 48⟩
    let s : SdBus := ⟨.tran, true, 0, none, true, true, 0, 0, none⟩
    let start := mainStart sampleDevice (.done .ok .fat32) sampleInitIo (fun _ _ => 0)
      ⟨SdParameter.zero, 0⟩
    ∃ t result s', Reaches start t (.done result) ∧ c.partner.Conversation s t s'
      ∧ ∃ dev' sys, result = some (dev', sys) ∧ ∀ events,
        let r := Runs.run (step dev') sys events
        r.drive.bot.capacity.toNat
            = (if r.drive.phantom.state = .unlocked
              then c.csd.sectors - sampleDevice.lockedSectors.toNat
              else sampleDevice.lockedSectors.toNat)
          ∧ ∀ a ∈ r.drive.log, a.InsideCard c.csd.sectors := by
  intro c s start
  obtain ⟨⟨t, result, s', hreach, hconv⟩, hruns⟩ := main_withinCard sampleDevice (.done .ok .fat32)
    sampleInitIo (fun _ _ => 0) ⟨SdParameter.zero, 0⟩ c (by decide +kernel) (by decide +kernel)
    (by decide +kernel) s
  exact ⟨t, result, s', hreach, hconv, hruns t result s' hreach hconv⟩

end PhantomDrive
