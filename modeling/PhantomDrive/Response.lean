/-
PhantomDrive/Response.lean

The data-in responses of `bot.c`: what a command reports (`Bot.response`), and that its
handler leaves exactly the first bytes of it where `bot_send_response_data` reads them.

Two kinds of commands fall out of this: REQUEST SENSE does not clamp the length to its
18 bytes, and the handlers without a response leave the host length and the response
pointer of an earlier command (`BulkOnlyCmd.answers`).
Main result: `responseBytes_dispatch`.
-/
import PhantomDrive.Status

namespace PhantomDrive

/-! ### The commands that answer -/

/-- The device answers the data-in phase of the command with its response and nothing else: the
handler defines one and clamps the length to it. -/
def BulkOnlyCmd.answers (cmd : BulkOnlyCmd) : Bool :=
  match cmd.command with
  | .inquiry | .readFormatCapacity | .readCapacity | .modeSense | .modeSense2 => true
  | .requestSense => cmd.dataLen ≤ 18
  | .write10 | .wrVerify10 => cmd.blockCount = 0
  | _ => false

/-! ### The buffer -/

/-- What is read from within the object is the beginning of the object. -/
theorem responseBytes_eq_take {dev : Device} {b : Bot} {len : ℕ}
    (h : len ≤ b.responseObject.length) : b.responseBytes dev len = b.responseObject.take len := by
  apply List.ext_getElem
  · simp [Bot.responseBytes, h]
  · intro i h₁ h₂
    have hi : i < b.responseObject.length := by
      rw [List.length_take] at h₂
      omega
    simp [Bot.responseBytes, hi]

/-- The buffer behind a handler that overlays it with a response. -/
theorem take_setBufBe32_memcpyBuf (cmd : BulkOnlyCmd) (response : List UInt8) (at_ len : ℕ)
    (value : UInt32) (hlen : len ≤ response.length) (hfits : response.length ≤ 31)
    (hat : at_ + 3 < 31) :
    (setBufBe32 (memcpyBuf cmd response len) at_ value hat).toList.take len
      = (setBe32 response at_ value).take len := by
  apply List.ext_getElem
  · simp [setBe32]
    omega
  · intro i h₁ h₂
    have hi : i < len := by
      rw [List.length_take] at h₁
      omega
    have hlt : i < response.length := by omega
    have hget : response[i]?.getD 0 = response[i] := by
      rw [List.getElem?_eq_getElem hlt, Option.getD_some]
    simp [setBe32, setBufBe32, memcpyBuf, memcpyAt, List.getElem_set, Vector.getElem_set, hi, hget]

theorem take_memcpyBuf (cmd : BulkOnlyCmd) (response : List UInt8) (len : ℕ)
    (hlen : len ≤ response.length) (hfits : response.length ≤ 31) :
    (memcpyBuf cmd response response.length).toList.take len = response.take len := by
  apply List.ext_getElem
  · simp
    omega
  · intro i h₁ h₂
    have hi : i < response.length := by
      rw [List.length_take] at h₁
      omega
    simp [memcpyBuf, memcpyAt, hi]

/-- A clamped length takes as much of a response as the host length does. -/
theorem take_clampBytes {response : List UInt8} {n left : UInt32}
    (hlen : response.length = n.toNat) :
    response.take (clampBytes n left).toNat = response.take left.toNat := by
  unfold clampBytes
  split
  · rename_i hlt
    have hlt := UInt32.lt_iff_toNat_lt.mp hlt
    rw [List.take_of_length_le (by omega), List.take_of_length_le (by omega)]
  · rfl

/-! ### The handlers -/

section Handlers

variable {dev : Device} {locked : Bool} {cmd : BulkOnlyCmd} {b : Bot}

/-- A response copied to the buffer, with a value in it. -/
theorem responseBytes_copied {d : Bot} {response : List UInt8} {n left value : UInt32} {at_ : ℕ}
    (hn : response.length = n.toNat) (hfits : response.length ≤ 31) (hat : at_ + 3 < 31)
    (hptr : d.responsePtr = .cbwCsw)
    (hbuf : d.cbwCsw = setBufBe32 (memcpyBuf cmd response (clampBytes n left).toNat) at_ value hat)
    (hleft : d.transferBytesLeft = clampBytes n left) :
    d.responseBytes dev d.transferBytesLeft.toNat
      = (setBe32 response at_ value).take left.toNat := by
  have hle : (clampBytes n left).toNat ≤ response.length := hn ▸ (clampBytes_le n left).1
  have hobject : d.responseObject
      = (setBufBe32 (memcpyBuf cmd response (clampBytes n left).toNat) at_ value hat).toList := by
    rw [Bot.responseObject, hptr, hbuf]
  rw [hleft, responseBytes_eq_take (by rw [hobject, Vector.length_toList]; omega), hobject,
    take_setBufBe32_memcpyBuf cmd response at_ _ value hle hfits hat,
    take_clampBytes ((length_setBe32 ..).trans hn)]

/-- What `bot_send_response_data` finds in `d` is `response`, up to the host length, in a packet of
at most 36 bytes. -/
def Bot.Holds (dev : Device) (response : List UInt8) (dataLen : UInt32) (d : Bot) : Prop :=
  d.responseBytes dev d.transferBytesLeft.toNat = response.take dataLen.toNat
    ∧ d.transferBytesLeft.toNat ≤ 36

theorem holds_inquiry (dev : Device) (b : Bot) {response : List UInt8}
    (hresponse : response = (scsiHandleInquiry b).inquiryResponse.toList) :
    (scsiHandleInquiry b).Holds dev response b.transferBytesLeft := by
  have hlength : response.length = 36 := by
    rw [hresponse]
    exact Vector.length_toList ..
  have hobject : (scsiHandleInquiry b).responseObject = response := hresponse.symm
  have hleft : (scsiHandleInquiry b).transferBytesLeft = clampBytes 36 b.transferBytesLeft := by
    rw [scsiHandleInquiry_eq]
    rfl
  have hle := (clampBytes_le 36 b.transferBytesLeft).1
  unfold Bot.Holds
  rw [hleft]
  refine ⟨?_, hle⟩
  rw [responseBytes_eq_take, hobject]
  · exact take_clampBytes hlength
  · rw [hobject, hlength]
    exact hle

/-- A response without data. -/
theorem holds_nil {d : Bot} (h : d.transferBytesLeft = 0) (dev : Device) (dataLen : UInt32) :
    d.Holds dev [] dataLen := by
  unfold Bot.Holds
  rw [h, List.take_nil]
  exact ⟨rfl, Nat.zero_le _⟩

theorem holds_requestSense (dev : Device) (b : Bot) (h : b.transferBytesLeft ≤ 18) :
    (scsiHandleRequestSense b).Holds dev (reqSense b.senseKey b.senseAsc) b.transferBytesLeft := by
  have hle : b.transferBytesLeft.toNat ≤ 18 := UInt32.le_iff_toNat_le.mp h
  refine ⟨?_, hle.trans (by decide)⟩
  rw [responseBytes_eq_take]
  · exact take_memcpyBuf b.cbwCsw (reqSense b.senseKey b.senseAsc) _ hle (by simp [reqSense])
  · show b.transferBytesLeft.toNat ≤ (memcpyBuf _ _ _).toList.length
    rw [Vector.length_toList]
    omega

/-- **What `bot_send_response_data` finds** behind the handler of a command that answers: the
response, up to the host length. -/
theorem responseBytes_dispatch (hcmd : b.cbwCsw.answers = true)
    (hrejects : b.rejects dev locked = false) (hlen : b.transferBytesLeft = b.cbwCsw.dataLen) :
    (scsiDispatchCommand dev locked b).Holds dev (b.response b.cbwCsw) b.cbwCsw.dataLen := by
  rw [← hlen]
  unfold BulkOnlyCmd.answers at hcmd
  unfold Bot.rejects at hrejects
  unfold scsiDispatchCommand Bot.response
  rcases hcommand : b.cbwCsw.command with - | - | - | - | - | - | - | - | - | - | - | - | - | - | -
  all_goals
    simp only [hcommand, Bool.false_eq_true, decide_eq_true_eq] at hcmd hrejects
  case inquiry =>
    refine holds_inquiry dev b ?_
    rw [scsiHandleInquiry_eq]
    rfl
  case readFormatCapacity =>
    dsimp only
    unfold scsiHandleReadFormatCapacity
    rw [scsiCopyResponseToBotBuffer_eq]
    exact ⟨responseBytes_copied (n := 0x0C) rfl (by decide) (by decide) rfl rfl rfl,
      (clampBytes_le _ _).1.trans (by decide)⟩
  case readCapacity =>
    dsimp only
    unfold scsiHandleReadCapacity
    rw [scsiCopyResponseToBotBuffer_eq]
    exact ⟨responseBytes_copied (n := 0x08) rfl (by decide) (by decide) rfl rfl rfl,
      (clampBytes_le _ _).1.trans (by decide)⟩
  case modeSense =>
    dsimp only
    unfold scsiHandleModeSense6
    rw [scsiCopyResponseToBotBuffer_eq]
    exact ⟨responseBytes_copied (n := 0x0C) rfl (by decide) (by decide) rfl rfl rfl,
      (clampBytes_le _ _).1.trans (by decide)⟩
  case modeSense2 =>
    have hpage : ¬ b.cbwCsw[17] ≠ 0x3F := of_decide_eq_false hrejects
    dsimp only
    unfold scsiHandleModeSense10
    rw [if_neg hpage, if_neg hpage, scsiCopyResponseToBotBuffer_eq]
    exact ⟨responseBytes_copied (n := 0x10) rfl (by decide) (by decide) rfl rfl rfl,
      (clampBytes_le _ _).1.trans (by decide)⟩
  case requestSense => exact holds_requestSense dev b (hlen ▸ hcmd)
  case write10 =>
    refine holds_nil ?_ dev _
    show b.cbwCsw.blockCount * 512 = 0
    rw [hcmd]
    rfl
  case wrVerify10 =>
    refine holds_nil ?_ dev _
    show b.cbwCsw.blockCount * 512 = 0
    rw [hcmd]
    rfl

end Handlers

end PhantomDrive
