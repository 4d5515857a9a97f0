import GladeGo.Proofs.Go.Identifier
import GladeGo.Proofs.Go.Literal

/-! # Colours

Which texts are colours, and which of them are the same. A channel is read as a number in
hexadecimal digits, and such a number may begin with a plus sign (`IsChannel`): so `#+f+f+f` is
taken for a colour, and it is the colour `#0f0f0f`. Where no plus sign stands, the colours are the
texts `#rrggbb` (`isHexColour_iff_colour`), and they differ where their digits do
(`colour_eq_iff`). -/

namespace GladeGo.Go

open GladeGo.Text

/-! ### Hexadecimal digits -/

/-- The value of a hexadecimal digit. A plus sign counts as zero. -/
def hexValue (c : Char) : Nat := (digitValue c).getD 0

/-- A digit, written as all digits of its value are written alike: in lower case. A plus sign is
written as zero. -/
def hexForm (c : Char) : Char := if c = '+' then '0' else c.toLower

/-- Whether `c` may begin a channel. -/
def IsLeading (c : Char) : Prop := c.isHexDigit = true ∨ c = '+'

theorem digitValue_eq (c : Char) :
    digitValue c = if c.isHexDigit then some (hexValue c) else none := by
  have hsome : (digitValue c).isSome = c.isHexDigit := by
    unfold digitValue Char.isHexDigit Char.isDigit
    split_ifs <;> simp_all [Char.le_def]
  rw [← hsome, hexValue]
  cases digitValue c <;> rfl

theorem lt_of_isLeading {c : Char} (h : IsLeading c) : c.toNat < 128 := by
  rcases h with h | rfl
  · simp only [Char.isHexDigit, Char.isDigit, Bool.or_eq_true, Bool.and_eq_true,
      decide_eq_true_eq, UInt32.le_iff_toNat_le] at h
    change c.val.toNat < 128
    rcases h with (⟨-, h⟩ | ⟨-, h⟩) | ⟨-, h⟩ <;> exact Nat.lt_of_le_of_lt h (by decide)
  · decide

theorem hexForm_eq {c : Char} (h : IsLeading c) :
    hexForm c = Nat.digitChar (hexValue c) ∧ hexValue c < 16 := by
  have htable : ∀ n < 128, (Char.ofNat n).isHexDigit = true ∨ Char.ofNat n = '+' →
      hexForm (Char.ofNat n) = Nat.digitChar (hexValue (Char.ofNat n)) ∧
        hexValue (Char.ofNat n) < 16 := by decide +kernel
  have hc := htable c.toNat (lt_of_isLeading h)
  rw [Char.ofNat_toNat] at hc
  exact hc h

theorem hexForm_eq_iff {c d : Char} (hc : IsLeading c) (hd : IsLeading d) :
    hexForm c = hexForm d ↔ hexValue c = hexValue d := by
  obtain ⟨hform, hlt⟩ := hexForm_eq hc
  obtain ⟨hform', hlt'⟩ := hexForm_eq hd
  rw [hform, hform']
  refine ⟨fun h => ?_, fun h => congrArg _ h⟩
  have hvalue := congrArg digitValue h
  rw [digitValue_digitChar _ hlt, digitValue_digitChar _ hlt'] at hvalue
  exact Option.some.inj hvalue

/-! ### Channels -/

/-- Two characters that are read as a channel: two hexadecimal digits, or a plus sign and one. -/
def IsChannel (a b : Char) : Prop := IsLeading a ∧ b.isHexDigit = true

/-- The value of a channel. -/
def channelValue (a b : Char) : Nat := 16 * hexValue a + hexValue b

theorem readChannel_eq_ok_iff {a b : Char} {value : Nat} :
    readChannel a b = .ok value ↔ IsChannel a b ∧ channelValue a b = value := by
  have hlt : ∀ {c : Char}, c.isHexDigit = true → hexValue c < 16 := fun h =>
    (hexForm_eq (Or.inl h)).2
  have hlast : ∀ n < 16, readDigits 16 255 .tooLarge n [b] = .ok value ↔
      b.isHexDigit = true ∧ n * 16 + hexValue b = value := by
    intro n hn
    rw [readDigits, digitValue_eq]
    by_cases hb : b.isHexDigit = true
    · have := hlt hb
      simp only [hb, if_true, true_and]
      rw [if_neg (by omega), if_neg (by omega), readDigits]
      exact ⟨Except.ok.inj, congrArg Except.ok⟩
    · simp [hb]
  unfold readChannel IsChannel IsLeading channelValue
  split
  · rename_i hplus
    subst hplus
    have hzero : hexValue '+' = 0 := by decide
    rw [hlast 0 (by omega), hzero]
    simp
  · rename_i hplus
    rw [readDigits, digitValue_eq]
    by_cases ha : a.isHexDigit = true
    · have := hlt ha
      simp only [ha, if_true]
      rw [if_neg (by omega), if_neg (by omega), hlast _ (by omega)]
      simp [Nat.mul_comm]
    · simp [ha, hplus]

theorem channelValue_le {a b : Char} (h : IsChannel a b) : channelValue a b ≤ 255 := by
  have ha := (hexForm_eq h.1).2
  have hb := (hexForm_eq (Or.inl h.2)).2
  unfold channelValue
  omega

/-- Channels have one value exactly if their digits have one form. -/
theorem channelValue_eq_iff {a b a' b' : Char} (h : IsChannel a b) (h' : IsChannel a' b') :
    channelValue a b = channelValue a' b' ↔ hexForm a = hexForm a' ∧ hexForm b = hexForm b' := by
  have hb := (hexForm_eq (Or.inl h.2)).2
  have hb' := (hexForm_eq (Or.inl h'.2)).2
  rw [hexForm_eq_iff h.1 h'.1, hexForm_eq_iff (Or.inl h.2) (Or.inl h'.2)]
  unfold channelValue
  omega

/-! ### Calls -/

/-- The Go expression `wx.NewColour(byte(r), byte(g), byte(b))` for the colour with the given
channels. -/
def colourCall (red green blue : Nat) : String :=
  "wx.NewColour(" ++ channel red ++ ", " ++ channel green ++ ", " ++ channel blue ++ ")"

theorem colourCall_eq (red green blue : Nat) :
    "wx.NewColour(" ++ ", ".intercalate ([red, green, blue].map channel) ++ ")" =
      colourCall red green blue := by
  unfold colourCall
  simp [String.append_assoc]

theorem toList_channel (value : Nat) :
    (channel value).toList = "byte(".toList ++ natDigits value ++ [')'] := by
  simp [channel, showNat]

theorem colourCall_inj {r g b r' g' b' : Nat} (h : colourCall r g b = colourCall r' g' b') :
    r = r' ∧ g = g' ∧ b = b' := by
  have hbracket : ∀ n, ')' ∉ natDigits n := fun n hn =>
    not_mem_marks_of_mem_natDigits hn (by decide)
  unfold colourCall at h
  have hlist := congrArg String.toList h
  simp only [String.toList_append, toList_channel, List.append_assoc, List.singleton_append,
    List.append_cancel_left_eq] at hlist
  obtain ⟨hr, hlist⟩ := append_stop_inj (hbracket r) (hbracket r') hlist
  obtain ⟨hg, hlist⟩ := append_stop_inj (hbracket g) (hbracket g')
    (List.append_cancel_left (List.append_cancel_left hlist))
  replace hlist := List.append_cancel_left (List.append_cancel_left hlist)
  obtain ⟨hb, -⟩ := append_stop_inj (hbracket b) (hbracket b') hlist
  exact ⟨natDigits_inj hr, natDigits_inj hg, natDigits_inj hb⟩

/-! ### Colours -/

/-- **Which texts are read as colours, and what is written for them.** -/
theorem colour_eq_ok_iff {raw expression : String} : colour raw = .ok expression ↔
    ∃ r₁ r₂ g₁ g₂ b₁ b₂, trimChars raw.toList = ['#', r₁, r₂, g₁, g₂, b₁, b₂] ∧
      IsChannel r₁ r₂ ∧ IsChannel g₁ g₂ ∧ IsChannel b₁ b₂ ∧
      colourCall (channelValue r₁ r₂) (channelValue g₁ g₂) (channelValue b₁ b₂) = expression := by
  constructor
  · intro h
    unfold colour at h
    split at h
    · rename_i r₁ r₂ g₁ g₂ b₁ b₂ htrim
      split at h
      · split at h
        · rename_i values hvalues
          cases h
          replace hvalues := mapM_eq_ok_iff.mp hvalues
          simp only [List.forall₂_cons_left_iff, List.forall₂_nil_left_iff,
            readChannel_eq_ok_iff] at hvalues
          obtain ⟨_, _, ⟨hr, rfl⟩, ⟨_, _, ⟨hg, rfl⟩, ⟨_, _, ⟨hb, rfl⟩, rfl, rfl⟩, rfl⟩, rfl⟩ :=
            hvalues
          exact ⟨r₁, r₂, g₁, g₂, b₁, b₂, htrim, hr, hg, hb, (colourCall_eq _ _ _).symm⟩
        · cases h
      · cases h
    · cases h
  · rintro ⟨r₁, r₂, g₁, g₂, b₁, b₂, htrim, hr, hg, hb, rfl⟩
    have hascii : ([r₁, r₂, g₁, g₂, b₁, b₂].all fun c => c.toNat < 128) = true := by
      simp [lt_of_isLeading hr.1, lt_of_isLeading (Or.inl hr.2), lt_of_isLeading hg.1,
        lt_of_isLeading (Or.inl hg.2), lt_of_isLeading hb.1, lt_of_isLeading (Or.inl hb.2)]
    have hred := readChannel_eq_ok_iff.mpr ⟨hr, rfl⟩
    have hgreen := readChannel_eq_ok_iff.mpr ⟨hg, rfl⟩
    have hblue := readChannel_eq_ok_iff.mpr ⟨hb, rfl⟩
    unfold colour
    simp only [htrim, hascii, if_true, List.mapM_cons, List.mapM_nil, hred, hgreen, hblue, ok_bind]
    exact congrArg Except.ok (colourCall_eq _ _ _)

/-- A text of the form `#rrggbb`. -/
def IsHexColour (cs : List Char) : Prop :=
  ∃ digits, cs = '#' :: digits ∧ digits.length = 6 ∧ ∀ c ∈ digits, c.isHexDigit = true

theorem isHexColour_iff {cs : List Char} : IsHexColour cs ↔
    ∃ r₁ r₂ g₁ g₂ b₁ b₂, cs = ['#', r₁, r₂, g₁, g₂, b₁, b₂] ∧
      ∀ c ∈ [r₁, r₂, g₁, g₂, b₁, b₂], c.isHexDigit = true := by
  constructor
  · rintro ⟨digits, rfl, hlength, hdigits⟩
    match digits, hlength with
    | [r₁, r₂, g₁, g₂, b₁, b₂], _ => exact ⟨r₁, r₂, g₁, g₂, b₁, b₂, rfl, hdigits⟩
  · rintro ⟨r₁, r₂, g₁, g₂, b₁, b₂, rfl, hdigits⟩
    exact ⟨_, rfl, rfl, hdigits⟩

theorem isChannel_iff {a b : Char} (ha : a ≠ '+') :
    IsChannel a b ↔ a.isHexDigit = true ∧ b.isHexDigit = true := by
  simp [IsChannel, IsLeading, ha]

/-- **The colours without a plus sign are the texts `#rrggbb`.** -/
theorem isHexColour_iff_colour {raw : String} : IsHexColour (trimChars raw.toList) ↔
    (∃ expression, colour raw = .ok expression) ∧ '+' ∉ trimChars raw.toList := by
  have hplus : ∀ {c : Char}, c.isHexDigit = true → c ≠ '+' := by
    rintro c hc rfl
    exact absurd hc (by decide)
  simp only [isHexColour_iff, colour_eq_ok_iff]
  constructor
  · rintro ⟨r₁, r₂, g₁, g₂, b₁, b₂, htrim, hdigits⟩
    simp only [List.forall_mem_cons] at hdigits
    obtain ⟨hr₁, hr₂, hg₁, hg₂, hb₁, hb₂, -⟩ := hdigits
    refine ⟨⟨_, r₁, r₂, g₁, g₂, b₁, b₂, htrim, ⟨.inl hr₁, hr₂⟩, ⟨.inl hg₁, hg₂⟩, ⟨.inl hb₁, hb₂⟩,
      rfl⟩, ?_⟩
    rw [htrim]
    simp [(hplus hr₁).symm, (hplus hr₂).symm, (hplus hg₁).symm, (hplus hg₂).symm,
      (hplus hb₁).symm, (hplus hb₂).symm]
  · rintro ⟨⟨_, r₁, r₂, g₁, g₂, b₁, b₂, htrim, hr, hg, hb, -⟩, hno⟩
    rw [htrim] at hno
    simp only [List.mem_cons, not_or] at hno
    obtain ⟨-, hr₁, -, hg₁, -, hb₁, -⟩ := hno
    rw [isChannel_iff (Ne.symm hr₁)] at hr
    rw [isChannel_iff (Ne.symm hg₁)] at hg
    rw [isChannel_iff (Ne.symm hb₁)] at hb
    exact ⟨r₁, r₂, g₁, g₂, b₁, b₂, htrim, by simp [hr, hg, hb]⟩

/-- **Colours are the same exactly if their digits have one form.** -/
theorem colour_eq_iff {raw raw' expression expression' : String} (h : colour raw = .ok expression)
    (h' : colour raw' = .ok expression') : expression = expression' ↔
      (trimChars raw.toList).map hexForm = (trimChars raw'.toList).map hexForm := by
  obtain ⟨r₁, r₂, g₁, g₂, b₁, b₂, htrim, hr, hg, hb, rfl⟩ := colour_eq_ok_iff.mp h
  obtain ⟨r₁', r₂', g₁', g₂', b₁', b₂', htrim', hr', hg', hb', rfl⟩ := colour_eq_ok_iff.mp h'
  rw [htrim, htrim']
  simp only [List.map_cons, List.map_nil, List.cons.injEq, true_and, and_true]
  constructor
  · intro hcall
    obtain ⟨hred, hgreen, hblue⟩ := colourCall_inj hcall
    obtain ⟨h₁, h₂⟩ := (channelValue_eq_iff hr hr').mp hred
    obtain ⟨h₃, h₄⟩ := (channelValue_eq_iff hg hg').mp hgreen
    obtain ⟨h₅, h₆⟩ := (channelValue_eq_iff hb hb').mp hblue
    exact ⟨h₁, h₂, h₃, h₄, h₅, h₆⟩
  · rintro ⟨h₁, h₂, h₃, h₄, h₅, h₆⟩
    rw [(channelValue_eq_iff hr hr').mpr ⟨h₁, h₂⟩, (channelValue_eq_iff hg hg').mpr ⟨h₃, h₄⟩,
      (channelValue_eq_iff hb hb').mpr ⟨h₅, h₆⟩]

theorem map_hexForm {cs : List Char} (h : '+' ∉ cs) : cs.map hexForm = cs.map Char.toLower :=
  List.map_congr_left fun c hc => if_neg (show c ≠ '+' from fun hplus => h (hplus ▸ hc))

/-- **Colours.** A text is read as a colour exactly if, between blanks, it is a number sign and
three channels; the expression for it calls `wx.NewColour` with the values of the channels, which
are those of their digits and fit a byte. The colours without a plus sign are the texts `#rrggbb`.
The same expression is written for two colours exactly if their digits have one form: if no plus
sign stands in them, if they agree up to the case of letters. -/
theorem colour_exact (raw : String) :
    (∀ expression, colour raw = .ok expression ↔
      ∃ r₁ r₂ g₁ g₂ b₁ b₂, trimChars raw.toList = ['#', r₁, r₂, g₁, g₂, b₁, b₂] ∧
        IsChannel r₁ r₂ ∧ IsChannel g₁ g₂ ∧ IsChannel b₁ b₂ ∧
        colourCall (channelValue r₁ r₂) (channelValue g₁ g₂) (channelValue b₁ b₂) = expression) ∧
    (∀ a b, IsChannel a b → channelValue a b ≤ 255) ∧
    (IsHexColour (trimChars raw.toList) ↔
      (∃ expression, colour raw = .ok expression) ∧ '+' ∉ trimChars raw.toList) ∧
    (∀ raw' expression expression', colour raw = .ok expression → colour raw' = .ok expression' →
      (expression = expression' ↔
        (trimChars raw.toList).map hexForm = (trimChars raw'.toList).map hexForm)) ∧
    ∀ raw', IsHexColour (trimChars raw.toList) → IsHexColour (trimChars raw'.toList) →
      (colour raw = colour raw' ↔
        (trimChars raw.toList).map Char.toLower = (trimChars raw'.toList).map Char.toLower) := by
  refine ⟨fun _ => colour_eq_ok_iff, fun _ _ => channelValue_le, isHexColour_iff_colour,
    fun _ _ _ => colour_eq_iff, fun raw' h h' => ?_⟩
  obtain ⟨⟨expression, hok⟩, hplus⟩ := isHexColour_iff_colour.mp h
  obtain ⟨⟨expression', hok'⟩, hplus'⟩ := isHexColour_iff_colour.mp h'
  rw [← map_hexForm hplus, ← map_hexForm hplus', ← colour_eq_iff hok hok', hok, hok',
    Except.ok.injEq]

/-- The case of the digits and the blanks around them do not matter. -/
theorem colour_exact_upperCase : IsHexColour (trimChars " #1F2E3D\n".toList) ∧
    colour " #1F2E3D\n" = colour "#1f2e3d" := by
  have hupper : IsHexColour (trimChars " #1F2E3D\n".toList) :=
    ⟨"1F2E3D".toList, by decide +kernel, rfl, List.all_eq_true.mp (by decide +kernel)⟩
  have hlower : IsHexColour (trimChars "#1f2e3d".toList) :=
    ⟨"1f2e3d".toList, by decide +kernel, rfl, List.all_eq_true.mp (by decide +kernel)⟩
  exact ⟨hupper, ((colour_exact " #1F2E3D\n").2.2.2.2 "#1f2e3d" hupper hlower).mpr
    (by decide +kernel)⟩

/-- A channel may begin with a plus sign: a text that is not of the form `#rrggbb` is a colour, and
the same as another which differs from it in more than the case of its letters. -/
theorem colour_signed :
    colour "#+f+f+f" = .ok "wx.NewColour(byte(15), byte(15), byte(15))" ∧
    ¬IsHexColour (trimChars "#+f+f+f".toList) ∧ colour "#+f+f+f" = colour "#0f0f0f" ∧
    (trimChars "#+f+f+f".toList).map Char.toLower ≠
      (trimChars "#0f0f0f".toList).map Char.toLower := by
  have hplus : '+' ∈ trimChars "#+f+f+f".toList := by decide +kernel
  refine ⟨by decide +kernel, fun h => (isHexColour_iff_colour.mp h).2 hplus, by decide +kernel,
    by decide +kernel⟩

end GladeGo.Go
