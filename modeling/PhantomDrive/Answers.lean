/-
PhantomDrive/Answers.lean

A command that answers gets its own response in every orderly run, whatever other
commands come in between: also behind one whose response reads on, or one that has none.

Main results: `answerInv_step`, `AnswerInv.data`.
-/
import PhantomDrive.ResponseRun

namespace PhantomDrive

/-! ### The invariant -/

/-- If the command in progress answers, its response is sent, and nothing else. -/
structure AnswerInv (dev : Device) (t : Session) : Prop where
  phase : t.InPhase dev
  packSize : t.sys.drive.bot.packSize = 512
  responded : t.exchange.cbw.answers = true → t.exchange.Responded dev t.sys.drive.bot

section Steps

variable {dev : Device} {t : Session}

/-- An OUT packet that is the CBW of a command that answers gets its response. -/
theorem AnswerInv.bulkOut (h : AnswerInv dev t) {packet : List UInt8} (hirq : t.sys.usbIrq = true)
    (hok : Orderly t (.bulkOut packet))
    (hcmd : (t.step dev (.bulkOut packet)).exchange.cbw.answers = true) :
    (t.step dev (.bulkOut packet)).exchange.Responded dev
      (t.step dev (.bulkOut packet)).sys.drive.bot := by
  have hserial := hok.1 hirq
  rw [Session.step_bulkOut hirq] at hcmd ⊢
  dsimp only at hcmd ⊢
  show Exchange.Responded dev _ (botHandleBulkOut dev _ packet t.sys.drive.bot)
  rcases botHandleBulkOut_cases dev t.sys.drive.phantom.isLocked packet t.sys.drive.bot with
    ⟨hout, heq⟩ | ⟨hout, hlen, heq⟩ | ⟨hout, hlen, hvalid, heq⟩ | ⟨hout, hlen, hvalid, heq⟩
  · rw [if_pos hout]
    intro _ hphase
    have hwrite : t.exchange.dataPhase dev = .write :=
      (Ongoing.dataOut_cases h.phase hout).elim (fun h => h.dataPhase) fun h => h.dataPhase
    exact absurd (hphase.symm.trans hwrite) DataPhase.noConfusion
  · rw [hout, if_neg Bool.false_ne_true, if_neg hlen] at hcmd ⊢
    rw [heq]
    exact h.responded hcmd
  · rw [hout, if_neg Bool.false_ne_true, if_pos hlen]
    exact fun hvalid' => absurd (hvalid.symm.trans hvalid') Bool.false_ne_true
  · rw [hout, if_neg Bool.false_ne_true] at hserial
    rw [hout, if_neg Bool.false_ne_true, if_pos hlen] at hcmd ⊢
    rw [heq]
    exact responded_begin (Ongoing.idling_of h.phase (hserial hlen)).transferFlags h.packSize
      fun _ _ _ _ => hcmd

/-- **An event of an orderly run** keeps the answers right. -/
theorem answerInv_step (hinit : dev.initTxCtrl = .nak) (t : Session) (e : Event)
    (h : AnswerInv dev t) (hok : Orderly t e) : AnswerInv dev (t.step dev e) := by
  refine ⟨inPhase_step hinit t e h.phase hok, (step_packSize t.sys e).trans h.packSize,
    fun hcmd => ?_⟩
  cases e with
  | bulkOut packet =>
    rcases hirq : t.sys.usbIrq with - | -
    · rw [Session.step_of_off hirq fun io => Event.noConfusion] at hcmd ⊢
      exact h.responded hcmd
    · exact h.bulkOut hirq hok hcmd
  | bulkIn =>
    rcases hirq : t.sys.usbIrq with - | -
    · rw [Session.step_of_off hirq fun io => Event.noConfusion] at hcmd ⊢
      exact h.responded hcmd
    · rw [Session.step_bulkIn hirq] at hcmd ⊢
      exact Ongoing.responded_bulkIn h.phase (h.responded hcmd)
  | main io =>
    have hsame : (t.step dev (.main io)).exchange.cbw = t.exchange.cbw := by
      rcases observe_cases dev t.exchange t.sys (.main io) with ⟨packet, hne, -⟩ | ⟨-, hsame, -⟩
      · exact Event.noConfusion hne
      · exact hsame.cbw
    rw [hsame] at hcmd
    exact Ongoing.responded_main hinit io h.phase (h.responded hcmd)

theorem answerInv_init (hinit : dev.initTxCtrl = .nak) (card : Card) :
    AnswerInv dev (.init dev card) where
  phase := inPhase_init hinit card
  packSize := rfl
  responded _ hvalid := absurd (validSignature_none.symm.trans hvalid) Bool.false_ne_true

/-- **A command that answers** sends its own response, up to the host length. -/
theorem AnswerInv.data (h : AnswerInv dev t) (hvalid : t.exchange.cbw.validSignature = true)
    (hphase : t.exchange.dataPhase dev = .respond) (hcmd : t.exchange.cbw.answers = true) :
    dataOf (t.exchange.packets t.sys.drive.bot)
      = t.exchange.response.take t.exchange.cbw.dataLen.toNat :=
  (h.responded hcmd hvalid hphase).1

end Steps

end PhantomDrive
