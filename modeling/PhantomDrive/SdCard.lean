/-
PhantomDrive/SdCard.lean

`SDCardInit` with a card that conforms.

`SdCard.Answers` is what the SD Physical Layer specification lets a card of version 2.0 or
later do while it is brought up: the states it goes through, what it answers in them, how
long it may be busy.  It is a relation.  The card chooses when it is powered up, within a
second from the first ACMD41, how long a command takes, and whether it knows CMD6.

Main result: `sdCardInit_succeeds`.  The hundred rounds of `SDReadOCR` wait longer than
the second the card may take.
-/
import PhantomDrive.SdInit

namespace PhantomDrive

open Dialogue

/-! ### The card -/

/-- The address a card publishes and its CSD. -/
structure SdCard where
  rca : UInt16
  csd : Csd

/-- The states of a card, as far as the sequence goes. -/
inductive CardMode
  | idle
  | ready
  | ident
  | stby
  | tran
deriving DecidableEq, Repr

/-- The card and the controller. -/
structure SdBus where
  mode : CardMode
  /-- The next command is an application command. -/
  appCmd : Bool
  /-- The time in microseconds. -/
  now : ℕ
  /-- When the card was sent its first ACMD41. -/
  polledAt : Option ℕ
  wide : Bool
  hostWide : Bool
  /-- The length of the block the controller is set up for. -/
  setup : ℕ
  /-- The length of the block the card is about to send. -/
  block : ℕ
  clk : Option ClkDiv

/-- How long a card may take to power up, in microseconds. -/
def powerUpUs : ℕ := 1000000

namespace SdCard

variable (c : SdCard)

/-- What a card may be asked. -/
def Legal (s : SdBus) : SdRequest → Prop
  | .sendCmd arg set _ => s.block = 0 ∧
      match set.cmd with
      | 8 => s.mode = .idle ∧ s.appCmd = false ∧ arg = 0x1AA
      | 55 => s.mode = .idle ∧ arg = 0 ∨ (s.mode = .stby ∨ s.mode = .tran) ∧ arg = rcaArg c.rca
      | 41 => s.mode = .idle ∧ s.appCmd = true
      | 3 => s.mode = .ident ∧ s.appCmd = false
      | 9 => s.mode = .stby ∧ s.appCmd = false ∧ arg = rcaArg c.rca
      | 6 => s.mode = .tran ∧
          if s.appCmd then arg = 0 ∨ arg = 2 else s.wide = s.hostWide ∧ s.setup = 64
      | 51 => s.mode = .tran ∧ s.appCmd = true ∧ s.wide = s.hostWide ∧ s.setup = 8
      | _ => False
  | .readCid => s.mode = .ready ∧ s.appCmd = false
  | .selectCard rca => s.mode = .stby ∧ s.appCmd = false ∧ rca = c.rca
  | .waitTranDone => s.block ≠ 0
  | .waitTranDoneOrErr => s.block ≠ 0
  | _ => True

/-- What the card may answer to command `cmd`, and what it then is, the time being `t`. -/
def AnswersCmd (s : SdBus) (t : ℕ) (arg : UInt32) (r : CmdReply) (s' : SdBus) : ℕ → Prop
  | 8 => r.sta = .success ∧ s' = { s with now := t, appCmd := false }
  | 55 => r.sta = .success ∧ s' = { s with now := t, appCmd := true }
  | 41 =>
      let first := s.polledAt.getD s.now
      r.sta = .success ∧
        if r.response 3 &&& 0x80000000 = 0 then
          t < first + powerUpUs ∧ s' = { s with now := t, appCmd := false, polledAt := some first }
        else s' = { s with now := t, appCmd := false, polledAt := some first, mode := .ready }
  | 3 =>
      r.sta = .success ∧ (r.response 3 >>> 16).toUInt16 = c.rca
        ∧ s' = { s with now := t, appCmd := false, mode := .stby }
  | 9 =>
      r.sta = .success ∧ (∀ i < 4, r.response i = c.csd.word i)
        ∧ s' = { s with now := t, appCmd := false }
  | 6 =>
      if s.appCmd then
        r.sta = .success ∧ s' = { s with now := t, appCmd := false, wide := arg = 2 }
      -- a card need not know CMD6
      else s' = { s with now := t, block := if r.sta = .success then 64 else 0 }
  | 51 => r.sta = .success ∧ s' = { s with now := t, appCmd := false, block := 8 }
  | _ => False

/-- What a request may be answered, and what that leaves. -/
def Answers (s : SdBus) : (q : SdRequest) → q.Reply → SdBus → Prop
  | .delay us, _, s' => ∃ t, s.now + us ≤ t ∧ s' = { s with now := t }
  | .resetIdle, _, s' => ∃ t, s.now ≤ t ∧ s' = { s with
      mode := .idle, appCmd := false, now := t, polledAt := none, wide := false, block := 0 }
  | .sendCmd arg set us, r, s' => ∃ t, s.now + us ≤ t ∧ c.AnswersCmd s t arg r s' set.cmd
  | .readCid, r, s' => r = .success ∧ ∃ t, s.now ≤ t ∧ s' = { s with now := t, mode := .ident }
  | .selectCard _, r, s' => r = .success ∧ ∃ t, s.now ≤ t ∧ s' = { s with now := t, mode := .tran }
  | .setupRead bytes, _, s' => s' = { s with setup := bytes }
  | .waitTranDone, data, s' => data.length = s.block
      ∧ ∃ t, s.now ≤ t ∧ s' = { s with now := t, block := 0 }
  | .waitTranDoneOrErr, r, s' => (∀ data, r = some data → data.length = s.block)
      ∧ ∃ t, s.now ≤ t ∧ s' = { s with now := t, block := 0 }
  | .busWidth four, _, s' => s' = { s with hostWide := four }
  | .clkDiv clk, _, s' => s' = { s with clk := some clk }
  | .resetController, _, s' => s' = s
  | .clearFlags, _, s' => s' = s
  | .clearOpErr, _, s' => s' = s

/-- The card as a partner of the code. -/
abbrev partner : Partner SdRequest SdRequest.Reply SdBus where
  legal := c.Legal
  answers := c.Answers

end SdCard

/-! ### The functions with a card -/

section Functions

variable {c : SdCard} {s : SdBus}

/-- The address a card publishes is the address the code reads. -/
theorem toUInt16_rcaArg (rca : UInt16) : (rcaArg rca >>> 16).toUInt16 = rca := by
  have hlt := rca.toNat_lt
  rw [← UInt16.toNat_inj, UInt32.toNat_toUInt16, UInt32.toNat_shiftRight, rcaArg,
    UInt32.toNat_shiftLeft, UInt16.toNat_toUInt32]
  show (rca.toNat <<< 16 % 2 ^ 32) >>> 16 % 2 ^ 16 = _
  rw [Nat.shiftLeft_eq, Nat.shiftRight_eq_div_pow]
  omega

/-- A card answers whatever it may be asked. -/
theorem SdCard.replies (c : SdCard) (s : SdBus) (q : SdRequest) (h : c.Legal s q) :
    ∃ r s', c.Answers s q r s' := by
  cases q with
  | sendCmd arg set us =>
    obtain ⟨-, hcmd⟩ := h
    suffices ∃ r s', c.AnswersCmd s (s.now + us) arg r s' set.cmd by
      obtain ⟨r, s', hanswer⟩ := this
      exact ⟨r, s', _, le_rfl, hanswer⟩
    generalize set.cmd = cmd at hcmd ⊢
    split at hcmd
    · exact ⟨⟨.success, fun _ => 0⟩, _, rfl, rfl⟩
    · exact ⟨⟨.success, fun _ => 0⟩, _, rfl, rfl⟩
    · have hbit : ¬ (0x80000000 : UInt32) &&& 0x80000000 = 0 := by decide
      exact ⟨⟨.success, fun _ => 0x80000000⟩, _, rfl, (if_neg hbit).mpr rfl⟩
    · exact ⟨⟨.success, fun _ => rcaArg c.rca⟩, _, rfl, toUInt16_rcaArg c.rca, rfl⟩
    · exact ⟨⟨.success, c.csd.word⟩, _, rfl, fun _ _ => rfl, rfl⟩
    · by_cases happ : s.appCmd = true
      · exact ⟨⟨.success, fun _ => 0⟩, _, (if_pos happ).mpr ⟨rfl, rfl⟩⟩
      · exact ⟨⟨.failed, fun _ => 0⟩, _, (if_neg happ).mpr rfl⟩
    · exact ⟨⟨.success, fun _ => 0⟩, _, rfl, rfl⟩
    · exact hcmd.elim
  | delay us => exact ⟨(), _, _, le_rfl, rfl⟩
  | resetIdle => exact ⟨(), _, _, le_rfl, rfl⟩
  | readCid => exact ⟨.success, _, rfl, _, le_rfl, rfl⟩
  | selectCard rca => exact ⟨.success, _, rfl, _, le_rfl, rfl⟩
  | waitTranDone => exact ⟨List.replicate s.block 0, _, List.length_replicate, _, le_rfl, rfl⟩
  | waitTranDoneOrErr => exact ⟨none, _, (fun _ h => by cases h), _, le_rfl, rfl⟩
  | setupRead bytes => exact ⟨(), _, rfl⟩
  | resetController => exact ⟨(), _, rfl⟩
  | busWidth four => exact ⟨(), _, rfl⟩
  | clkDiv clk => exact ⟨(), _, rfl⟩
  | clearFlags => exact ⟨(), _, rfl⟩
  | clearOpErr => exact ⟨(), _, rfl⟩

/-- The card is in a mode and has nothing under way. -/
structure SdBus.In (s : SdBus) (mode : CardMode) (wide hostWide : Bool) : Prop where
  mode_eq : s.mode = mode
  appCmd : s.appCmd = false
  block : s.block = 0
  wide_eq : s.wide = wide
  hostWide_eq : s.hostWide = hostWide

variable {wide hostWide : Bool}

/-- The card answers the first CMD8. -/
theorem sendIfCondLoop_card {P : Sta → SdBus → Prop} (left : ℕ) (h : s.In .idle wide hostWide)
    (hpost : ∀ s', s'.In .idle wide hostWide → s'.polledAt = s.polledAt → P .success s') :
    (sendIfCondLoop (left + 1)).wp c.partner P s := by
  rw [sendIfCondLoop]
  refine wp_request trivial fun _ s' hs' => ?_
  subst hs'
  refine wp_request ⟨h.block, h.mode_eq, h.appCmd, rfl⟩ ?_
  rintro ⟨sta, response⟩ s' ⟨t, -, hsta, rfl⟩
  cases hsta
  exact hpost _ ⟨h.mode_eq, rfl, h.block, h.wide_eq, h.hostWide_eq⟩ rfl

/-- How far the loop of `SDReadOCR` is: before its first round, or so far that the card has no more
than the rest of its second. -/
def OcrProgress (left : ℕ) (s : SdBus) : Prop :=
  s.polledAt = none ∧ left = ocrRounds
    ∨ ∃ first, s.polledAt = some first ∧ first + 20000 * (ocrRounds - left) ≤ s.now ∧ 50 ≤ left

/-- **`SDReadOCR` succeeds**: behind fifty rounds the second is over. -/
theorem sdReadOcrLoop_card {P : Sta × SdPara → SdBus → Prop} (left : ℕ) (para : SdPara)
    (h : s.In .idle wide hostWide) (hprogress : OcrProgress left s)
    (hpost : ∀ para' s', s'.In .ready wide hostWide → P (.success, para') s') :
    (sdReadOcrLoop left para).wp c.partner P s := by
  induction left generalizing s with
  | zero =>
    rcases hprogress with ⟨-, hrounds⟩ | ⟨-, -, -, hleft⟩
    · cases hrounds
    · cases hleft
  | succ left ih =>
    rw [sdReadOcrLoop]
    refine wp_request ⟨h.block, Or.inl ⟨h.mode_eq, rfl⟩⟩ ?_
    rintro ⟨sta, response⟩ s' ⟨t, ht, hsta, rfl⟩
    cases hsta
    refine wp_request ⟨h.block, h.mode_eq, rfl⟩ ?_
    rintro ⟨sta, response'⟩ s' ⟨t', ht', hsta, hanswer⟩
    cases hsta
    show Prog.wp _ (if Sta.success = Sta.success ∧ response' 3 &&& 0x80000000 ≠ 0 then _ else _) _ _
    by_cases hbit : response' 3 &&& 0x80000000 = 0
    · -- busy: the second is not over
      obtain ⟨hbusy, rfl⟩ := (if_pos hbit).mp hanswer
      rw [if_neg fun h => h.2 hbit]
      refine wp_request trivial ?_
      rintro - s' ⟨t'', ht'', rfl⟩
      refine ih ⟨h.mode_eq, rfl, h.block, h.wide_eq, h.hostWide_eq⟩ (Or.inr ⟨_, rfl, ?_⟩)
      change t + 2 ≤ t' at ht'
      change t' + 20000 ≤ t'' at ht''
      change t' < s.polledAt.getD t + powerUpUs at hbusy
      show s.polledAt.getD t + 20000 * (ocrRounds - left) ≤ t'' ∧ 50 ≤ left
      unfold OcrProgress ocrRounds powerUpUs at *
      rcases hprogress with ⟨hnone, hrounds⟩ | ⟨first, hfirst, hsince, hleft⟩
      · rw [hnone, Option.getD_none]
        omega
      · rw [hfirst, Option.getD_some] at hbusy ⊢
        omega
    · have hs' := (if_neg hbit).mp hanswer
      rw [if_pos ⟨rfl, hbit⟩, hs']
      exact hpost _ _ ⟨rfl, rfl, h.block, h.wide_eq, h.hostWide_eq⟩

theorem sdSetRca_card {P : Sta × SdPara → SdBus → Prop} (para : SdPara)
    (h : s.In .ident wide hostWide)
    (hpost : ∀ s', s'.In .stby wide hostWide → P (.success, { para with emmcRca := c.rca }) s') :
    (sdSetRca para).wp c.partner P s := by
  rw [sdSetRca]
  refine wp_request ⟨h.block, h.mode_eq, h.appCmd⟩ ?_
  rintro ⟨sta, response⟩ s' ⟨t, -, hsta, hrca, rfl⟩
  cases hsta
  change (response 3 >>> 16).toUInt16 = c.rca at hrca
  rw [← hrca] at hpost
  exact hpost _ ⟨rfl, rfl, h.block, h.wide_eq, h.hostWide_eq⟩

/-- `sdReadCsd` reads four words, and nothing of what was there before. -/
theorem sdReadCsd_congr {response response' : ℕ → UInt32}
    (h : ∀ i < 4, response i = response' i) (before before' : SdParameter) :
    sdReadCsd true response before = sdReadCsd true response' before' := by
  have h0 := h 0 (by decide)
  have h1 := h 1 (by decide)
  have h2 := h 2 (by decide)
  have h3 := h 3 (by decide)
  simp only [sdReadCsd, h0, h1, h2, h3, if_true]
  split
  · rfl
  · rfl

/-- What the code has read of the card. -/
structure SdCard.ReadInto (c : SdCard) (para : SdPara) : Prop where
  rca : para.emmcRca = c.rca
  csd : ∀ before, para.toSdParameter = sdReadCsd true c.csd.word before

theorem sdReadCsdCmd_card {P : Sta × SdPara → SdBus → Prop} (para : SdPara)
    (h : s.In .stby wide hostWide) (hrca : para.emmcRca = c.rca)
    (hpost : ∀ para' s', s'.In .stby wide hostWide → c.ReadInto para' → P (.success, para') s') :
    (sdReadCsdCmd para).wp c.partner P s := by
  rw [sdReadCsdCmd]
  refine wp_request ⟨h.block, h.mode_eq, h.appCmd, by rw [hrca]⟩ ?_
  rintro ⟨sta, response⟩ s' ⟨t, -, hsta, hcsd, rfl⟩
  cases hsta
  exact hpost _ _ ⟨h.mode_eq, rfl, h.block, h.wide_eq, h.hostWide_eq⟩
    ⟨hrca, fun before => sdReadCsd_congr hcsd _ before⟩

theorem sdSetBusWidth_card {P : Sta → SdBus → Prop} (para : SdPara) (h : s.In .tran wide hostWide)
    (hrca : para.emmcRca = c.rca) (hpost : ∀ s', s'.In .tran true hostWide → P .success s') :
    (sdSetBusWidth para 1).wp c.partner P s := by
  rw [sdSetBusWidth]
  refine wp_request ⟨h.block, Or.inr ⟨Or.inr h.mode_eq, by rw [hrca]⟩⟩ ?_
  rintro ⟨sta, response⟩ s' ⟨t, -, hsta, rfl⟩
  cases hsta
  refine wp_request ⟨h.block, h.mode_eq, Or.inr rfl⟩ ?_
  rintro ⟨sta, response'⟩ s' ⟨t', -, hsta, rfl⟩
  cases hsta
  exact hpost _ ⟨h.mode_eq, rfl, h.block, rfl, h.hostWide_eq⟩

theorem sdReadScr_card {P : Sta → SdBus → Prop} (para : SdPara) (h : s.In .tran true true)
    (hrca : para.emmcRca = c.rca) (hpost : ∀ s', s'.In .tran true true → P .success s') :
    (sdReadScr para).wp c.partner P s := by
  rw [sdReadScr]
  refine wp_request ⟨h.block, Or.inr ⟨Or.inr h.mode_eq, by rw [hrca]⟩⟩ ?_
  rintro ⟨sta, response⟩ s' ⟨t, -, hsta, rfl⟩
  cases hsta
  refine wp_request trivial fun _ s' hs' => ?_
  subst hs'
  refine wp_request ⟨h.block, h.mode_eq, rfl, h.wide_eq.trans h.hostWide_eq.symm, rfl⟩ ?_
  rintro ⟨sta, response'⟩ s' ⟨t', -, hsta, rfl⟩
  cases hsta
  refine wp_request (by exact Nat.succ_ne_zero 7) ?_
  rintro data s' ⟨-, t'', -, rfl⟩
  refine wp_request trivial fun _ s' hs' => ?_
  subst hs'
  exact hpost _ ⟨h.mode_eq, rfl, rfl, h.wide_eq, h.hostWide_eq⟩

/-- Whether the card knows CMD6 or not, it is behind it as it was before. -/
theorem sdSwitchFunction_card {P : Option (List UInt8) → SdBus → Prop} (arg : UInt32)
    (h : s.In .tran true true) (hpost : ∀ block s', s'.In .tran true true → P block s') :
    (sdSwitchFunction arg).wp c.partner P s := by
  rw [sdSwitchFunction]
  refine wp_request trivial fun _ s' hs' => ?_
  subst hs'
  refine wp_request trivial fun _ s' hs' => ?_
  subst hs'
  refine wp_request trivial fun _ s' hs' => ?_
  subst hs'
  have happ : ¬ s'.appCmd = true := by
    rw [h.appCmd]
    exact Bool.false_ne_true
  refine wp_request ⟨h.block, h.mode_eq, (if_neg happ).mpr ⟨h.wide_eq.trans h.hostWide_eq.symm, rfl⟩⟩ ?_
  rintro ⟨sta, response⟩ s'' ⟨t, -, hanswer⟩
  have hs' := (if_neg happ).mp hanswer
  subst hs'
  cases sta with
  | failed =>
    refine wp_request trivial fun _ s' hs' => ?_
    subst hs'
    refine wp_request trivial fun _ s' hs' => ?_
    subst hs'
    exact hpost _ _ ⟨h.mode_eq, h.appCmd, rfl, h.wide_eq, h.hostWide_eq⟩
  | success =>
    refine wp_request (by exact Nat.succ_ne_zero 63) ?_
    rintro (- | block) s' ⟨-, t', -, rfl⟩
    · refine wp_request trivial fun _ s' hs' => ?_
      subst hs'
      refine wp_request trivial fun _ s' hs' => ?_
      subst hs'
      exact hpost _ _ ⟨h.mode_eq, h.appCmd, rfl, h.wide_eq, h.hostWide_eq⟩
    · refine wp_request trivial fun _ s' hs' => ?_
      subst hs'
      exact hpost _ _ ⟨h.mode_eq, h.appCmd, rfl, h.wide_eq, h.hostWide_eq⟩

theorem sdEnableHighSpeed_card {P : Unit → SdBus → Prop} (h : s.In .tran true true)
    (hpost : ∀ s', s'.In .tran true true → P () s') : sdEnableHighSpeed.wp c.partner P s := by
  rw [sdEnableHighSpeed, wp_bind]
  refine sdSwitchFunction_card _ h ?_
  rintro (- | block) s₁ h₁
  · exact hpost s₁ h₁
  dsimp only
  split
  · exact hpost s₁ h₁
  rw [wp_bind]
  refine sdSwitchFunction_card _ h₁ ?_
  rintro (- | block') s₂ h₂
  · exact hpost s₂ h₂
  refine ⟨trivial, ?_⟩
  rintro - s₃ ⟨t, -, rfl⟩
  exact hpost _ ⟨h₂.mode_eq, h₂.appCmd, h₂.block, h₂.wide_eq, h₂.hostWide_eq⟩

end Functions

/-! ### The whole sequence -/

/-- What a card is like when it has been brought up. -/
def SdBus.Up (s : SdBus) : Prop := s.In .tran true true ∧ s.clk = some highSpeedClk

theorem sdDoInit_card (c : SdCard) (s : SdBus) (para : SdPara) (hwide : s.hostWide = false) :
    (sdDoInit para).wp c.partner (fun r s' => r.1 = .success ∧ c.ReadInto r.2 ∧ s'.Up) s := by
  rw [sdDoInit]
  refine wp_request trivial ?_
  rintro - s₁ ⟨t₁, -, rfl⟩
  refine wp_request trivial ?_
  rintro - s₂ ⟨t₂, -, rfl⟩
  refine wp_request trivial ?_
  rintro - s₃ ⟨t₃, -, rfl⟩
  refine wp_request trivial ?_
  rintro - s₄ ⟨t₄, -, rfl⟩
  -- CMD8, ACMD41
  rw [wp_bind]
  refine sendIfCondLoop_card 2 ⟨rfl, rfl, rfl, rfl, hwide⟩ fun s₅ h₅ hpolled => ?_
  refine wp_proceed ?_
  rw [wp_bind]
  refine sdReadOcrLoop_card ocrRounds para h₅ (Or.inl ⟨hpolled, rfl⟩) fun para₆ s₆ h₆ => ?_
  refine wp_proceed ?_
  -- CMD2, CMD3, CMD9, CMD7
  refine wp_request ⟨h₆.mode_eq, h₆.appCmd⟩ ?_
  rintro - s₇ ⟨rfl, t₇, -, rfl⟩
  refine wp_proceed ?_
  rw [wp_bind]
  refine sdSetRca_card _ ⟨rfl, h₆.appCmd, h₆.block, h₆.wide_eq, h₆.hostWide_eq⟩ fun s₈ h₈ => ?_
  refine wp_proceed ?_
  rw [wp_bind]
  refine sdReadCsdCmd_card _ h₈ rfl fun para₉ s₉ h₉ hread => ?_
  refine wp_proceed ?_
  refine wp_request trivial ?_
  rintro - s₁₀ ⟨t₁₀, -, rfl⟩
  refine wp_request ⟨h₉.mode_eq, h₉.appCmd, hread.rca⟩ ?_
  rintro - s₁₁ ⟨rfl, t₁₁, -, rfl⟩
  refine wp_proceed ?_
  -- ACMD6, ACMD51, CMD6
  rw [wp_bind]
  refine sdSetBusWidth_card _ ⟨rfl, h₉.appCmd, h₉.block, h₉.wide_eq, h₉.hostWide_eq⟩ hread.rca
    fun s₁₂ h₁₂ => ?_
  refine wp_proceed ?_
  refine wp_request trivial ?_
  rintro - s₁₃ rfl
  rw [wp_bind]
  refine sdReadScr_card _ ⟨h₁₂.mode_eq, h₁₂.appCmd, h₁₂.block, h₁₂.wide_eq, rfl⟩ hread.rca
    fun s₁₄ h₁₄ => ?_
  refine wp_proceed ?_
  rw [wp_bind]
  refine sdEnableHighSpeed_card h₁₄ fun s₁₅ h₁₅ => ?_
  refine wp_request trivial ?_
  rintro - s₁₆ rfl
  exact ⟨rfl, hread, ⟨h₁₅.mode_eq, h₁₅.appCmd, h₁₅.block, h₁₅.wide_eq, h₁₅.hostWide_eq⟩, rfl⟩

theorem sdCardInit_card (c : SdCard) (s : SdBus) (para : SdPara) :
    (sdCardInit para).wp c.partner (fun r s' => r.1 = .success ∧ c.ReadInto r.2 ∧ s'.Up) s := by
  refine wp_request trivial ?_
  rintro - s₁ rfl
  refine wp_request trivial ?_
  rintro - s₂ rfl
  refine wp_request trivial ?_
  rintro - s₃ rfl
  refine wp_request trivial ?_
  rintro - s₄ rfl
  refine wp_request trivial ?_
  rintro - s₅ rfl
  exact sdDoInit_card c _ para rfl

/-- **A card that conforms is brought up**, whatever state it and the controller were in: no
command is one the card would refuse, the code comes to its end, and in every conversation it
returns `OP_SUCCESS` with the address and the CSD of the card in `*pEMMCPara`, the card in the
transfer state on four bits, and the clock raised, whether the card knows CMD6 or not. -/
theorem sdCardInit_succeeds (c : SdCard) (s : SdBus) (para : SdPara) :
    (∀ t s' q next, Reaches (sdCardInit para) t (.ask q next) → c.partner.Conversation s t s' →
        c.Legal s' q)
      ∧ (∀ t s' sta para', Reaches (sdCardInit para) t (.done (sta, para')) →
          c.partner.Conversation s t s' → sta = .success ∧ c.ReadInto para' ∧ s'.Up)
      ∧ ∃ t r s', Reaches (sdCardInit para) t (.done r) ∧ c.partner.Conversation s t s' := by
  have hwp := sdCardInit_card c s para
  refine ⟨fun _ _ _ _ hreach hconv => wp_legal hwp hreach hconv, ?_, wp_ends c.replies hwp⟩
  intro t s' sta para' hreach hconv
  have hup := wp_result hwp hreach hconv
  exact hup

end PhantomDrive
