import ShownText.Proofs.Numerals
import ShownText.Proofs.ScannerAgreement

namespace ShownText.PostScript

open Text

namespace NumberScan

inductive Slip
  | noByte (index : ℕ)
  | noSlice (start stop : ℕ)
  | noLast
  deriving DecidableEq, Repr

variable (word : String)

def byteAt (i : ℕ) : Except Slip Char :=
  match Scanner.byteAt? word i with
  | some b => .ok (Char.ofNat b.toNat)
  | none => .error (.noByte i)

def slice (start stop : ℕ) : Except Slip (List Char) :=
  if start ≤ stop ∧ stop ≤ word.utf8ByteSize then
    .ok (((word.toUTF8.data.toList.take stop).drop start).map fun b ↦ Char.ofNat b.toNat)
  else .error (.noSlice start stop)

def lastIndex : Except Slip ℕ :=
  if word.utf8ByteSize = 0 then .error .noLast else .ok (word.utf8ByteSize - 1)

def hash? : Option ℕ :=
  let i := Scanner.passBytes word (· != 0x23) 0
  if i < word.utf8ByteSize then some i else none

def radix : Except Slip (Option Bool) :=
  match hash? word with
  | none => .ok none
  | some hash => do
    let last ← lastIndex word
    if 0 < hash ∧ hash < last then
      let base ← slice word 0 hash
      let digits ← slice word (hash + 1) word.utf8ByteSize
      return some (base.all Char.isDigit && digits.all Char.isAlphanum)
    else return none

inductive Step
  | refused
  | again (i : ℕ) (dot exponent : Bool)
  deriving DecidableEq, Repr

def passMark (i : ℕ) (dot : Bool) : Except Slip Step := do
  let last ← lastIndex word
  if i = last then return .refused
  let c ← byteAt word (i + 1)
  if isSign c then
    if i + 1 = last then return .refused else return .again (i + 2) dot true
  else return .again (i + 1) dot true

def step (i : ℕ) (dot exponent : Bool) : Except Slip Step := do
  let c ← byteAt word i
  if c == '.' then return if dot || exponent then .refused else .again (i + 1) true exponent
  else if isExponentMark c then
    if exponent || i == 0 then return .refused else passMark word i dot
  else return if c.isDigit then .again (i + 1) dot exponent else .refused

variable {word}

theorem lt_of_passMark {i j : ℕ} {dot dot' exponent : Bool}
    (h : passMark word i dot = .ok (.again j dot' exponent)) : i < j := by
  unfold passMark at h
  cases hlast : lastIndex word with
  | error slip => simp [hlast, bind, Except.bind] at h
  | ok last =>
    simp only [hlast, bind, Except.bind, pure, Except.pure] at h
    split at h
    · cases h
    · split at h
      · cases h
      · split at h
        · split at h <;> cases h
          omega
        · cases h
          omega

theorem lt_of_step {i j : ℕ} {dot dot' exponent exponent' : Bool}
    (h : step word i dot exponent = .ok (.again j dot' exponent')) : i < j := by
  unfold step at h
  cases hbyte : byteAt word i with
  | error slip => simp [hbyte, bind, Except.bind] at h
  | ok c =>
    simp only [hbyte, bind, Except.bind, pure, Except.pure] at h
    split at h
    · split at h <;> cases h
      omega
    · split at h
      · split at h
        · cases h
        · exact lt_of_passMark h
      · split at h <;> cases h
        omega

variable (word)

def scan (i : ℕ) (dot exponent : Bool) : Except Slip Bool :=
  if i < word.utf8ByteSize then
    match _h : step word i dot exponent with
    | .error slip => .error slip
    | .ok .refused => .ok false
    | .ok (.again j dot exponent) => scan j dot exponent
  else .ok true
termination_by word.utf8ByteSize - i
decreasing_by have := lt_of_step _h; omega

def decimal : Except Slip Bool := do
  let c ← byteAt word 0
  if isSign c then
    if word.utf8ByteSize = 1 then return false else scan word 1 false false
  else scan word 0 false false

def run : Except Slip Bool :=
  if word.utf8ByteSize = 0 then .ok false
  else do
    match ← radix word with
    | some verdict => return verdict
    | none => decimal word

variable {word} {i : ℕ} {c : Char} {cs : List Char} {dot exponent : Bool}

theorem asciiClass_isSign : AsciiClass isSign :=
  (asciiClass_beq (by decide)).or (asciiClass_beq (by decide))

theorem asciiClass_isExponentMark : AsciiClass isExponentMark :=
  (asciiClass_beq (by decide)).or (asciiClass_beq (by decide))

theorem asciiClass_isDigit : AsciiClass Char.isDigit := by
  intro c hc
  exact Bool.and_eq_false_iff.mpr (.inr (decide_eq_false (not_le_ascii hc (by decide))))

theorem asciiClass_isAlphanum : AsciiClass Char.isAlphanum := by
  intro c hc
  have hupper : c.isUpper = false :=
    decide_eq_false fun h ↦ not_le_ascii (d := 'Z') hc (by decide) h.2
  have hlower : c.isLower = false :=
    Bool.and_eq_false_iff.mpr (.inr (decide_eq_false (not_le_ascii hc (by decide))))
  change (c.isUpper || c.isLower || c.isDigit) = false
  rw [hupper, hlower, asciiClass_isDigit c hc]
  rfl

/-- The byte at a place is of the classes of the character there. -/
theorem exists_byteAt (h : Cursor.IsIn ⟨i, c :: cs⟩ word) :
    ∃ d, byteAt word i = .ok d ∧ ∀ q, AsciiClass q → q d = q c := by
  obtain ⟨b, hb, bs, hbs⟩ := exists_first_byte c
  have hbyte := Scanner.byteAt?_eq h
  rw [encode_cons, hbs, List.cons_append, List.head?_cons] at hbyte
  refine ⟨Char.ofNat b.toNat, ?_, ?_⟩
  · rw [byteAt, hbyte]
  · intro q hq
    exact hq.byte hb

theorem lastIndex_eq (h : Cursor.IsIn ⟨i, c :: cs⟩ word) :
    lastIndex word = .ok (word.utf8ByteSize - 1) := by
  have hsize : i + (c.utf8Size + byteLength cs) = word.utf8ByteSize := h.offset_add
  have hpos := c.utf8Size_pos
  exact if_neg (by omega)

theorem eq_last_iff (h : Cursor.IsIn ⟨i, c :: cs⟩ word) (hc : c.utf8Size = 1) :
    i = word.utf8ByteSize - 1 ↔ cs = [] := by
  have hsize : i + (c.utf8Size + byteLength cs) = word.utf8ByteSize := h.offset_add
  rw [hc] at hsize
  cases cs with
  | nil =>
    rw [byteLength_nil] at hsize
    exact iff_of_true (by omega) rfl
  | cons d cs =>
    have hpos := d.utf8Size_pos
    rw [byteLength_cons] at hsize
    exact iff_of_false (by omega) (List.cons_ne_nil d cs)

def afterMark (i : ℕ) (dot : Bool) : List Char → Step
  | [] => .refused
  | c :: cs =>
    if isSign c then if cs.isEmpty then .refused else .again (i + 2) dot true
    else .again (i + 1) dot true

def decideAt (i : ℕ) (dot exponent : Bool) (c : Char) (cs : List Char) : Step :=
  if c == '.' then if dot || exponent then .refused else .again (i + 1) true exponent
  else if isExponentMark c then if exponent || i == 0 then .refused else afterMark i dot cs
  else if c.isDigit then .again (i + 1) dot exponent else .refused

theorem passMark_eq (h : Cursor.IsIn ⟨i, c :: cs⟩ word) (hc : isExponentMark c = true) :
    passMark word i dot = .ok (afterMark i dot cs) := by
  have hone := asciiClass_isExponentMark.utf8Size hc
  have hnext := h.advance_one
  rw [hone] at hnext
  rw [passMark, lastIndex_eq h]
  simp only [bind, Except.bind, pure, Except.pure, eq_last_iff h hone]
  cases cs with
  | nil => rfl
  | cons c cs =>
    obtain ⟨d, hbyte, hclass⟩ := exists_byteAt hnext
    rw [if_neg (List.cons_ne_nil c cs), hbyte, afterMark]
    simp only [hclass isSign asciiClass_isSign]
    split
    · next hsign =>
      simp only [eq_last_iff hnext (asciiClass_isSign.utf8Size hsign), List.isEmpty_iff]
      split <;> rfl
    · rfl

theorem step_eq (h : Cursor.IsIn ⟨i, c :: cs⟩ word) :
    step word i dot exponent = .ok (decideAt i dot exponent c cs) := by
  obtain ⟨d, hbyte, hclass⟩ := exists_byteAt h
  have hpoint : (d == '.') = (c == '.') := hclass (· == '.') (asciiClass_beq (by decide))
  rw [step, hbyte, decideAt]
  simp only [bind, Except.bind, pure, Except.pure, hpoint,
    hclass _ asciiClass_isExponentMark, hclass _ asciiClass_isDigit]
  split
  · rfl
  split
  · next hmark =>
    split
    · rfl
    · exact passMark_eq h hmark
  · rfl

theorem scan_nil (h : Cursor.IsIn ⟨i, []⟩ word) : scan word i dot exponent = .ok true := by
  have hsize : i + 0 = word.utf8ByteSize := h.offset_add
  rw [scan, if_neg (by omega)]

def resume (word : String) : Step → Except Slip Bool
  | .refused => .ok false
  | .again j dot exponent => scan word j dot exponent

theorem scan_cons (h : Cursor.IsIn ⟨i, c :: cs⟩ word) :
    scan word i dot exponent = resume word (decideAt i dot exponent c cs) := by
  have hsize : i + (c.utf8Size + byteLength cs) = word.utf8ByteSize := h.offset_add
  have hpos := c.utf8Size_pos
  have hstep := @step_eq word i c cs dot exponent h
  rw [scan, if_pos (by omega)]
  split
  · next heq => rw [hstep] at heq; cases heq
  · next heq =>
    have hdecide := Except.ok.inj (hstep.symm.trans heq)
    rw [hdecide, resume]
  · next heq =>
    have hdecide := Except.ok.inj (hstep.symm.trans heq)
    rw [hdecide, resume]

theorem scan_again {q : Char → Bool} (hq : AsciiClass q) (hc : q c = true)
    (h : Cursor.IsIn ⟨i, c :: cs⟩ word) : Cursor.IsIn ⟨i + 1, cs⟩ word := by
  have hnext := h.advance_one
  rwa [hq.utf8Size hc] at hnext

theorem isDigit_of_isExponentMark (h : isExponentMark c = true) : c.isDigit = false := by
  have hmark : c = 'e' ∨ c = 'E' := by simpa [isExponentMark] using h
  rcases hmark with rfl | rfl <;> rfl

theorem scan_digits (h : Cursor.IsIn ⟨i, cs⟩ word) :
    scan word i dot true = .ok (cs.all Char.isDigit) := by
  induction cs generalizing i with
  | nil => exact scan_nil h
  | cons c cs ih =>
    rw [scan_cons h, List.all_cons, decideAt]
    cases hdigit : c.isDigit with
    | false => simp [resume]
    | true =>
      have hnext := scan_again asciiClass_isDigit hdigit h
      have hpoint : c ≠ '.' := ne_of_isDigit hdigit (by decide)
      have hmark : isExponentMark c = false := by
        by_contra hmark
        rw [isDigit_of_isExponentMark (by simpa using hmark)] at hdigit
        cases hdigit
      simp [hpoint, hmark, resume, ih hnext]

/-- What the characters from an index on have to be, `read` being those of the mantissa before. -/
def endsNumber (i : ℕ) (read cs : List Char) : Bool :=
  isMantissa (read ++ cs.takeWhile (!isExponentMark ·)) &&
    match cs.dropWhile (!isExponentMark ·) with
    | [] => true
    | _ :: exponent =>
      (0 < i || !(cs.takeWhile (!isExponentMark ·)).isEmpty) && isExponent exponent

def pointRead (dot : Bool) : List Char := if dot then ['.'] else []

theorem isMantissa_pointRead (dot : Bool) : isMantissa (pointRead dot) = true := by
  cases dot <;> decide

theorem isMantissa_append_digit {read : List Char} (hc : c.isDigit = true) :
    isMantissa (read ++ c :: cs) = isMantissa (read ++ cs) := by
  have hpoint : c ≠ '.' := ne_of_isDigit hc (by decide)
  simp [isMantissa, hc, hpoint]

theorem isMantissa_append_other {read : List Char} (hdigit : c.isDigit = false)
    (hpoint : c ≠ '.') : isMantissa (read ++ c :: cs) = false := by
  simp [isMantissa, hdigit, hpoint]

theorem isMantissa_points (cs : List Char) : isMantissa ('.' :: '.' :: cs) = false := by
  simp [isMantissa]

theorem resume_afterMark (h : Cursor.IsIn ⟨i, c :: cs⟩ word) (hc : isExponentMark c = true) :
    resume word (afterMark i dot cs) = .ok (isExponent cs) := by
  have hnext := scan_again asciiClass_isExponentMark hc h
  cases cs with
  | nil => rfl
  | cons d cs =>
    rw [afterMark, isExponent, dropSign]
    cases hsign : isSign d with
    | false =>
      have hdigits := @scan_digits word (i + 1) (d :: cs) dot hnext
      simp [resume, hdigits]
    | true =>
      cases cs with
      | nil => rfl
      | cons e cs =>
        have hdigits := @scan_digits word (i + 2) (e :: cs) dot
          (scan_again asciiClass_isSign hsign hnext)
        simp [resume, hdigits]

theorem scan_number (h : Cursor.IsIn ⟨i, cs⟩ word) :
    scan word i dot false = .ok (endsNumber i (pointRead dot) cs) := by
  induction cs generalizing i dot with
  | nil =>
    rw [scan_nil h]
    simp [endsNumber, isMantissa_pointRead]
  | cons c cs ih =>
    rw [scan_cons h, decideAt]
    by_cases hpoint : c = '.'
    · subst hpoint
      cases dot with
      | true => simp [endsNumber, isExponentMark, pointRead, resume, isMantissa_points]
      | false =>
        have hnext := scan_again (asciiClass_beq (d := '.') (by decide)) (by rfl) h
        simp [endsNumber, isExponentMark, pointRead, resume, ih hnext]
    have hpoint' : (c == '.') = false := by simpa using hpoint
    cases hmark : isExponentMark c with
    | true =>
      have hrest := @resume_afterMark word i c cs dot h hmark
      by_cases hi : i = 0
      · simp [endsNumber, hpoint', hmark, hi, resume]
      · simp [endsNumber, hpoint', hmark, hi, hrest, isMantissa_pointRead, Nat.pos_of_ne_zero hi]
    | false =>
      cases hdigit : c.isDigit with
      | false => simp [endsNumber, hmark, hpoint', resume, isMantissa_append_other hdigit hpoint]
      | true =>
        have hnext := scan_again asciiClass_isDigit hdigit h
        simp [endsNumber, hmark, hpoint', resume, ih hnext, isMantissa_append_digit hdigit]

theorem isEmpty_takeWhile {p : Char → Bool} (h : cs.dropWhile p = []) :
    (cs.takeWhile p).isEmpty = cs.isEmpty := by
  have hall := List.takeWhile_append_dropWhile (p := p) (l := cs)
  rw [h, List.append_nil] at hall
  rw [hall]

theorem isDecimalNumber_signed (hc : isSign c = true) :
    isDecimalNumber (c :: cs) = (!cs.isEmpty && endsNumber 1 [] cs) := by
  rw [isDecimalNumber, dropSign, if_pos hc, endsNumber]
  cases hrest : cs.dropWhile (!isExponentMark ·) with
  | nil => simp [isEmpty_takeWhile hrest, Bool.and_comm]
  | cons mark exponent =>
    have hne : cs ≠ [] := by
      rintro rfl
      cases hrest
    simp [hne]

theorem isDecimalNumber_unsigned (hc : isSign c = false) :
    isDecimalNumber (c :: cs) = endsNumber 0 [] (c :: cs) := by
  rw [isDecimalNumber, dropSign, if_neg (by simp [hc]), endsNumber]
  cases hrest : (c :: cs).dropWhile (!isExponentMark ·) with
  | nil => simp [isEmpty_takeWhile hrest]
  | cons mark exponent => simp

theorem decimal_eq (h : Cursor.IsIn ⟨0, c :: cs⟩ word) :
    decimal word = .ok (isDecimalNumber (c :: cs)) := by
  obtain ⟨d, hbyte, hclass⟩ := exists_byteAt h
  rw [decimal, hbyte]
  simp only [bind, Except.bind, pure, Except.pure, hclass isSign asciiClass_isSign]
  cases hsign : isSign c with
  | true =>
    have hnext := scan_again asciiClass_isSign hsign h
    have hone : word.utf8ByteSize = 1 ↔ cs = [] := by
      rw [← eq_last_iff h (asciiClass_isSign.utf8Size hsign)]
      have hsize : 1 + byteLength cs = word.utf8ByteSize := hnext.offset_add
      omega
    have hscan := @scan_number word 1 cs false hnext
    rw [isDecimalNumber_signed hsign]
    by_cases hcs : cs = []
    · simp [hone, hcs]
    · simp [hone, hcs, hscan, pointRead]
  | false =>
    have hscan := @scan_number word 0 (c :: cs) false h
    rw [isDecimalNumber_unsigned hsign]
    exact hscan

theorem hash?_eq {base rest : List Char} (hword : word.toList = base ++ rest)
    (hbase : ∀ c ∈ base, (c != '#') = true) (hrest : ∀ c ∈ rest.head?, (c != '#') = false) :
    hash? word = if rest = [] then none else some (byteLength base) := by
  have hin : Cursor.IsIn ⟨0, base ++ rest⟩ word := ⟨[], hword, rfl⟩
  have hpass : Scanner.passBytes word (· != 0x23) 0 = byteLength base := by
    have hclass : ∀ c, ∀ b ∈ String.utf8EncodeChar c, (b != 0x23) = (c != '#') := by
      intro c b hb
      have hbyte : (b == 0x23) = (c == '#') := @beq_of_mem_utf8EncodeChar c '#' (by decide) b hb
      rw [bne, bne, hbyte]
    have hskip := Scanner.passBytes_eq hclass hin
    simp only at hskip
    rw [hskip, skipWhile_run hbase hrest, Nat.zero_add]
  have hsize : 0 + byteLength base + byteLength rest = word.utf8ByteSize := hin.advance.offset_add
  rw [hash?, hpass]
  cases rest with
  | nil => simp at hsize; simp [hsize]
  | cons c rest =>
    have hpos := c.utf8Size_pos
    rw [byteLength_cons] at hsize
    simp
    omega

theorem slice_eq {xs ys : List Char} (h : Cursor.IsIn ⟨i, xs ++ ys⟩ word) :
    slice word i (i + byteLength xs) = .ok ((encode xs).map fun b ↦ Char.ofNat b.toNat) := by
  have hsize : i + byteLength (xs ++ ys) = word.utf8ByteSize := h.offset_add
  have hbytes := h.drop_bytes
  rw [byteLength_append] at hsize
  rw [slice, if_pos (by omega), List.drop_take, hbytes, encode_append, Nat.add_sub_cancel_left,
    ← length_encode, List.take_left]

theorem byteLength_pos {cs : List Char} (h : cs ≠ []) : 0 < byteLength cs := by
  obtain ⟨c, cs, rfl⟩ := List.exists_cons_of_ne_nil h
  exact Nat.add_pos_left c.utf8Size_pos _

theorem radix_eq {base digits : List Char} (hword : word.toList = base ++ '#' :: digits)
    (hbase : ∀ c ∈ base, c ≠ '#') : radix word =
      .ok (if base = [] ∨ digits = [] then none else some (isRadixNumber word.toList)) := by
  have hin : Cursor.IsIn ⟨0, base ++ '#' :: digits⟩ word := ⟨[], hword, rfl⟩
  have hsign : Cursor.IsIn ⟨byteLength base, '#' :: digits⟩ word := by
    simpa only [Nat.zero_add] using hin.advance
  have hhash : hash? word = some (byteLength base) :=
    hash?_eq hword (by simpa using hbase) (by simp)
  have hsize : byteLength base + (1 + byteLength digits) = word.utf8ByteSize := hsign.offset_add
  rw [radix, hhash]
  simp only [lastIndex_eq hsign, bind, Except.bind, pure, Except.pure]
  by_cases hends : base = [] ∨ digits = []
  · have hoff : ¬(0 < byteLength base ∧ byteLength base < word.utf8ByteSize - 1) := by
      rcases hends with rfl | rfl
      · simp
      · rw [byteLength_nil] at hsize
        omega
    rw [if_neg hoff, if_pos hends]
  · rw [not_or] at hends
    have hinside : 0 < byteLength base ∧ byteLength base < word.utf8ByteSize - 1 := by
      have hb := byteLength_pos hends.1
      have hd := byteLength_pos hends.2
      omega
    have hfront := slice_eq hin
    have hafter : Cursor.IsIn ⟨byteLength base + 1, digits ++ []⟩ word := by
      rw [List.append_nil]
      exact hsign.advance_one
    have hback := slice_eq hafter
    have hstop : byteLength base + 1 + byteLength digits = word.utf8ByteSize := by omega
    rw [Nat.zero_add] at hfront
    rw [hstop] at hback
    rw [if_pos hinside, if_neg (not_or.mpr hends)]
    simp only [hfront, hback, asciiClass_isDigit.all, asciiClass_isAlphanum.all]
    have hb : base.isEmpty = false := List.isEmpty_eq_false_iff.mpr hends.1
    have hd : digits.isEmpty = false := List.isEmpty_eq_false_iff.mpr hends.2
    simp [hword, isRadixNumber_eq hbase, hb, hd]

theorem isDecimalNumber_of_hash (h : '#' ∈ cs) : isDecimalNumber cs = false := by
  by_contra hdecimal
  have hdigits : ∀ ds : List Char, (∀ c ∈ ds, c.isDigit = true) → '#' ∉ ds :=
    fun ds hds hmem ↦ absurd (hds _ hmem) (by decide)
  have hsigns : ∀ ds : List Char, Signs ds → '#' ∉ ds := by
    intro ds hds
    cases hds <;> decide
  obtain ⟨sign, mantissa, hs, hm, hform⟩ := exists_of_isDecimalNumber (by simpa using hdecimal)
  have hmantissa : '#' ∉ mantissa := by
    intro hmem
    rcases hm.char hmem with hc | hc
    · exact absurd hc (by decide)
    · exact absurd hc (by decide)
  rcases hform with ⟨-, rfl⟩ | ⟨-, mark, sign', digits, hmark, hs', -, hd, rfl⟩
  · simp [hsigns sign hs, hmantissa] at h
  · have hne : '#' ≠ mark := by
      rintro rfl
      exact absurd hmark (by decide)
    simp [hsigns sign hs, hmantissa, hne, hsigns sign' hs', hdigits digits hd] at h

theorem radix_cases (hword : word.toList = cs) :
    radix word = .ok none ∧ isRadixNumber cs = false ∨
      radix word = .ok (some (isRadixNumber cs)) ∧ isDecimalNumber cs = false := by
  obtain ⟨base, rest, rfl, hbase, hrest⟩ := exists_run (· != '#') cs
  have hbase' : ∀ c ∈ base, c ≠ '#' := by simpa using hbase
  cases rest with
  | nil =>
    left
    constructor
    · rw [radix, hash?_eq hword hbase hrest]
      rfl
    · rw [List.append_nil]
      exact isRadixNumber_of_not_mem hbase'
  | cons d digits =>
    obtain rfl : d = '#' := by simpa using hrest
    have hradix := radix_eq hword hbase'
    by_cases hends : base = [] ∨ digits = []
    · rw [if_pos hends] at hradix
      refine .inl ⟨hradix, ?_⟩
      rw [isRadixNumber_eq hbase']
      rcases hends with rfl | rfl <;> simp
    · rw [if_neg hends, hword] at hradix
      exact .inr ⟨hradix, isDecimalNumber_of_hash (by simp)⟩

/-- The scan never slips, and it tells whether the word is a number. -/
theorem run_eq (word : String) : run word = .ok (isNumber word) := by
  have hsize : word.utf8ByteSize = byteLength word.toList := utf8ByteSize_eq word
  rw [run, hsize, isNumber]
  cases hchars : word.toList with
  | nil => rfl
  | cons c cs =>
    have hpos := byteLength_pos (List.cons_ne_nil c cs)
    have hin : Cursor.IsIn ⟨0, c :: cs⟩ word := ⟨[], hchars, rfl⟩
    rw [if_neg (Nat.ne_of_gt hpos)]
    rcases radix_cases hchars with ⟨hradix, hfree⟩ | ⟨hradix, hdecimal⟩
    · simp only [hradix, decimal_eq hin, hfree]
      rfl
    · simp only [hradix, hdecimal, Bool.or_false]
      rfl

end NumberScan

/-- The words that are classified as numbers are the numerals, and the scan by indices classifies
every word so without a slip. -/
theorem numerals_recognised (word : String) :
    (isNumber word = true ↔ Numeral word.toList) ∧
      NumberScan.run word = .ok (isNumber word) :=
  ⟨isNumber_iff word, NumberScan.run_eq word⟩

end ShownText.PostScript
