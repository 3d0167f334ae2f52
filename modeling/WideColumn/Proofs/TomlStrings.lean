import WideColumn.Proofs.Reading
import WideColumn.Toml.Quoted

/-! A string that is written in any of the four forms is read back, in front of anything that starts
with no quote. -/

namespace WideColumn.Toml

section

variable {multi : Bool} {rest : List Char}

theorem readBasic_backslash :
    readBasic multi .plain ('\\' :: rest) = readBasic multi .escape rest := by
  rw [readBasic.eq_def]
  rfl

theorem readBasic_text {c : Char} (unquoted : c ≠ '"') (unescaped : c ≠ '\\')
    (shown : (isTextChar c || (multi && endsLine c rest)) = true) :
    readBasic multi .plain (c :: rest) = emit c (readBasic multi .plain rest) := by
  rw [readBasic.eq_def]
  simp only
  rw [if_neg (by simp), if_neg unquoted, if_neg unescaped, if_pos shown]

theorem readBasic_escape {c mark : Char} (meant : escape? mark = some c) :
    readBasic multi .plain ('\\' :: mark :: rest) = emit c (readBasic multi .plain rest) := by
  rw [readBasic_backslash, readBasic]
  simp only [meant]

def codeValue (value : Nat) (digits : List Char) : Nat :=
  digits.foldl (fun value c => 16 * value + ((Text.hexValue? c).map Fin.val).getD 0) value

theorem readBasic_code {value : Nat} {digits : List Char} (present : digits ≠ [])
    (hexadecimal : ∀ c ∈ digits, (Text.hexValue? c).isSome)
    (valid : (codeValue value digits).isValidChar) :
    readBasic multi (.code digits.length value) (digits ++ rest) =
      emit (Char.ofNat (codeValue value digits)) (readBasic multi .plain rest) := by
  induction digits generalizing value with
  | nil => exact absurd rfl present
  | cons c digits ih =>
      obtain ⟨digit, read⟩ := Option.isSome_iff_exists.mp (hexadecimal c List.mem_cons_self)
      have step : codeValue value (c :: digits) = codeValue (16 * value + digit) digits := by
        simp [codeValue, read]
      rw [step] at valid ⊢
      rw [List.cons_append, readBasic]
      simp only [read]
      cases digits with
      | nil =>
          rw [if_neg (by simp)]
          exact if_pos valid
      | cons d digits =>
          rw [if_pos (by simp)]
          exact ih (List.cons_ne_nil d digits)
            (fun e member => hexadecimal e (List.mem_cons_of_mem c member)) valid

theorem codeDigits_spec {n : Nat} (low : n < 128) : (codeDigits n).length = 4 ∧
    (∀ c ∈ codeDigits n, (Text.hexValue? c).isSome = true) ∧ codeValue 0 (codeDigits n) = n := by
  have checked : (List.range 128).all (fun n => (codeDigits n).length == 4 &&
      ((codeDigits n).all (fun c => (Text.hexValue? c).isSome) &&
        codeValue 0 (codeDigits n) == n)) = true := by
    decide +kernel
  have spec := List.all_eq_true.mp checked n (List.mem_range.mpr low)
  simpa only [Bool.and_eq_true, beq_iff_eq, List.all_eq_true] using spec

theorem readBasic_codeDigits {c : Char} (low : c.toNat < 128) :
    readBasic multi .plain ('\\' :: 'u' :: codeDigits c.toNat ++ rest) =
      emit c (readBasic multi .plain rest) := by
  obtain ⟨length, hexadecimal, value⟩ := codeDigits_spec low
  have read : readBasic multi (.code (codeDigits c.toNat).length 0) (codeDigits c.toNat ++ rest) =
      emit (Char.ofNat (codeValue 0 (codeDigits c.toNat))) (readBasic multi .plain rest) :=
    readBasic_code (List.ne_nil_of_length_pos (by omega)) hexadecimal (by rw [value]; exact c.valid)
  rw [length, value, Char.ofNat_toNat] at read
  rw [List.cons_append, List.cons_append, readBasic_backslash, readBasic]
  exact read

theorem lt_of_isControl {c : Char} (control : isControl c = true) : c.toNat < 128 := by
  simp only [isControl, Bool.or_eq_true, Bool.and_eq_true, decide_eq_true_eq, beq_iff_eq] at control
  omega

theorem isTextChar_of_not_isControl {c : Char} (shown : isControl c = false) (other : c ≠ '\n') :
    isTextChar c = true := by
  by_cases tab : c = '\t'
  · rw [tab]
    rfl
  · simp only [isControl, bne_iff_ne.mpr tab, bne_iff_ne.mpr other, Bool.and_true,
      Bool.or_eq_false_iff, decide_eq_false_iff_not, Nat.not_lt, beq_eq_false_iff_ne] at shown
    simp only [isTextChar, Bool.or_eq_true, Bool.and_eq_true, decide_eq_true_eq]
    exact .inr ⟨shown.1, bne_iff_ne.mpr shown.2⟩

theorem readBasic_writeChar {c : Char} (unquoted : c ≠ '"') :
    readBasic multi .plain (writeChar multi c ++ rest) = emit c (readBasic multi .plain rest) := by
  unfold writeChar
  split
  case isTrue tab =>
    subst tab
    exact readBasic_escape rfl
  split
  case isTrue newline =>
    subst newline
    cases multi with
    | true => exact readBasic_text (by decide) (by decide) rfl
    | false => exact readBasic_escape rfl
  split
  case isTrue backslash =>
    subst backslash
    exact readBasic_escape rfl
  split
  case isTrue backspace =>
    subst backspace
    exact readBasic_escape rfl
  split
  case isTrue feed =>
    subst feed
    exact readBasic_escape rfl
  split
  case isTrue carriage =>
    subst carriage
    exact readBasic_escape rfl
  case isFalse newline backslash _ _ _ =>
    split
    case isTrue control => exact readBasic_codeDigits (lt_of_isControl control)
    case isFalse shown =>
      refine readBasic_text unquoted backslash ?_
      rw [isTextChar_of_not_isControl (Bool.eq_false_iff.mpr shown) newline, Bool.true_or]

end

/-! Three quotes end a string on many lines; up to two before them belong to it.  Nothing else that
is written has three quotes in a row. -/

section

variable {quote : Char} {rest : List Char}

theorem closing_of_ne {c : Char} (other : c ≠ quote) : closing quote (c :: rest) = none := by
  unfold closing
  split
  · rename_i same
    cases same
    exact if_neg fun both => other both.1
  · rfl

theorem closing_cons_of_ne {c d : Char} (other : d ≠ quote) :
    closing quote (c :: d :: rest) = none :=
  if_neg fun both => other both.2

theorem closing_none (breaks : Breaks (· == quote) rest) :
    closing quote (quote :: quote :: rest) = some ([], rest) := by
  cases rest with
  | nil => simp [closing]
  | cons c rest =>
      rw [breaks_cons, beq_eq_false_iff_ne] at breaks
      cases rest <;> simp [closing, breaks]

theorem closing_one (breaks : Breaks (· == quote) rest) :
    closing quote (quote :: quote :: quote :: rest) = some ([quote], rest) := by
  cases rest with
  | nil => simp [closing]
  | cons c rest =>
      rw [breaks_cons, beq_eq_false_iff_ne] at breaks
      simp [closing, breaks]

theorem closing_two : closing quote (quote :: quote :: quote :: quote :: rest) =
    some ([quote, quote], rest) := by
  simp [closing]

end

section

variable {rest : List Char}

theorem readBasic_line (text : List Char) :
    readBasic false .plain (writeBasic false 0 text ++ '"' :: rest) = some (text, rest) := by
  induction text with
  | nil =>
      rw [writeBasic, List.nil_append, readBasic.eq_def]
      simp
  | cons c text ih =>
      rw [writeBasic]
      split
      case isTrue quote =>
        subst quote
        simp only [Bool.false_and, Bool.false_eq_true, if_false, List.cons_append]
        rw [readBasic_escape rfl, ih]
        rfl
      case isFalse unquoted =>
        rw [List.append_assoc, readBasic_writeChar unquoted, ih]
        rfl

theorem readBasic_quote {later : List Char} :
    readBasic true .plain ('"' :: later) =
      (closing '"' later).or (emit '"' (readBasic true .plain later)) := by
  rw [readBasic.eq_def]
  simp

theorem writeChar_eq_cons (multi : Bool) (c : Char) :
    ∃ d later, writeChar multi c = d :: later ∧ (d = '\\' ∨ d = c ∧ c ≠ '\r') := by
  unfold writeChar
  split
  case isTrue => exact ⟨_, _, rfl, .inl rfl⟩
  split
  case isTrue newline =>
    subst newline
    cases multi with
    | true => exact ⟨_, _, rfl, .inr ⟨rfl, by decide⟩⟩
    | false => exact ⟨_, _, rfl, .inl rfl⟩
  split
  case isTrue => exact ⟨_, _, rfl, .inl rfl⟩
  split
  case isTrue => exact ⟨_, _, rfl, .inl rfl⟩
  split
  case isTrue => exact ⟨_, _, rfl, .inl rfl⟩
  split
  case isTrue => exact ⟨_, _, rfl, .inl rfl⟩
  case isFalse carriage =>
    split
    case isTrue => exact ⟨_, _, rfl, .inl rfl⟩
    case isFalse => exact ⟨_, _, rfl, .inr ⟨rfl, carriage⟩⟩

/-- The third quote of a run is escaped, and so is no other character than a quote a bare one. -/
theorem writeBasic_eq_cons (multi : Bool) (run : Nat) (c : Char) (text : List Char)
    (escaped : c = '"' → multi = true → 2 ≤ run) :
    ∃ d later, writeBasic multi run (c :: text) = d :: later ∧ d ≠ '"' := by
  rw [writeBasic]
  split
  case isTrue quote =>
    have third : (multi && decide (run < 2)) = false := by
      cases multi with
      | false => rfl
      | true =>
          have := escaped quote rfl
          simp only [Bool.true_and, decide_eq_false_iff_not]
          omega
    rw [third]
    exact ⟨_, _, rfl, by decide⟩
  case isFalse unquoted =>
    obtain ⟨d, later, spelled, first⟩ := writeChar_eq_cons multi c
    refine ⟨d, _, by rw [spelled]; rfl, ?_⟩
    rcases first with rfl | ⟨rfl, -⟩
    · decide
    · exact unquoted

theorem closing_writeBasic (run : Nat) (text : List Char) (once : 0 < run)
    (breaks : Breaks (· == '"') rest) :
    closing '"' (writeBasic true run text ++ '"' :: '"' :: '"' :: rest) = none ∨
      closing '"' (writeBasic true run text ++ '"' :: '"' :: '"' :: rest) =
        some ('"' :: text, rest) := by
  cases text with
  | nil => exact .inr (closing_one breaks)
  | cons c text =>
      by_cases raw : c = '"' ∧ run < 2
      · obtain ⟨rfl, first⟩ := raw
        have bare : writeBasic true run ('"' :: text) = '"' :: writeBasic true (run + 1) text := by
          simp [writeBasic, first]
        rw [bare]
        cases text with
        | nil => exact .inr closing_two
        | cons d text =>
            obtain ⟨e, later, spelled, other⟩ :=
              writeBasic_eq_cons true (run + 1) d text fun _ _ => by omega
            rw [spelled]
            exact .inl (closing_cons_of_ne other)
      · obtain ⟨d, later, spelled, other⟩ :=
          writeBasic_eq_cons true run c text fun quote _ =>
            Nat.le_of_not_lt fun first => raw ⟨quote, first⟩
        rw [spelled]
        exact .inl (closing_of_ne other)

theorem readBasic_lines (run : Nat) (text : List Char) (breaks : Breaks (· == '"') rest) :
    readBasic true .plain (writeBasic true run text ++ '"' :: '"' :: '"' :: rest) =
      some (text, rest) := by
  induction text generalizing run with
  | nil => rw [writeBasic, List.nil_append, readBasic_quote, closing_none breaks, Option.some_or]
  | cons c text ih =>
      rw [writeBasic]
      split
      case isTrue quote =>
        subst quote
        split
        case isTrue raw =>
          rw [List.cons_append, readBasic_quote, ih]
          rcases closing_writeBasic (run + 1) text (Nat.succ_pos run) breaks with ended | ended
          · rw [ended]
            rfl
          · rw [ended]
            rfl
        case isFalse third =>
          rw [List.cons_append, List.cons_append, readBasic_escape rfl, ih]
          rfl
      case isFalse unquoted =>
        rw [List.append_assoc, readBasic_writeChar unquoted, ih]
        rfl

theorem readLiteral_text {multi : Bool} {c : Char} {later : List Char} (unquoted : c ≠ '\'')
    (shown : (isTextChar c || (multi && endsLine c later)) = true) :
    readLiteral multi (c :: later) = emit c (readLiteral multi later) := by
  rw [readLiteral, if_neg unquoted, if_pos shown]

theorem readLiteral_line {text : List Char} (shown : ∀ c ∈ text, isTextChar c = true)
    (unquoted : '\'' ∉ text) :
    readLiteral false (text ++ '\'' :: rest) = some (text, rest) := by
  induction text with
  | nil => simp [readLiteral]
  | cons c text ih =>
      rw [List.mem_cons, not_or] at unquoted
      rw [List.cons_append, readLiteral_text (Ne.symm unquoted.1)
        (by rw [shown c List.mem_cons_self, Bool.true_or]),
        ih (fun d member => shown d (List.mem_cons_of_mem c member)) unquoted.2]
      rfl

theorem le_longestRun (quote : Char) (run : Nat) (text : List Char) :
    run ≤ longestRun quote run text := by
  induction text generalizing run with
  | nil => exact Nat.le_refl run
  | cons c text ih =>
      rw [longestRun]
      split
      · exact Nat.le_of_succ_le (ih (run + 1))
      · exact Nat.le_max_left _ _

theorem longestRun_cons_of_ne {quote c : Char} {run : Nat} {text : List Char} (other : c ≠ quote) :
    longestRun quote run (c :: text) = max run (longestRun quote 0 text) :=
  if_neg other

theorem longestRun_cons_self {quote : Char} {run : Nat} {text : List Char} :
    longestRun quote run (quote :: text) = longestRun quote (run + 1) text :=
  if_pos rfl

theorem closing_text {quote : Char} {run : Nat} {text : List Char} (once : 0 < run)
    (short : longestRun quote run text ≤ 2) (breaks : Breaks (· == quote) rest) :
    closing quote (text ++ quote :: quote :: quote :: rest) = none ∨
      closing quote (text ++ quote :: quote :: quote :: rest) = some (quote :: text, rest) := by
  cases text with
  | nil => exact .inr (closing_one breaks)
  | cons c text =>
      by_cases first : c = quote
      · subst first
        rw [longestRun_cons_self] at short
        cases text with
        | nil => exact .inr closing_two
        | cons d text =>
            refine .inl (closing_cons_of_ne fun third => ?_)
            rw [third, longestRun_cons_self] at short
            have := le_longestRun c (run + 1 + 1) text
            omega
      · exact .inl (closing_of_ne first)

theorem readLiteral_lines {run : Nat} {text : List Char}
    (shown : ∀ c ∈ text, isTextChar c = true ∨ c = '\n') (short : longestRun '\'' run text ≤ 2)
    (breaks : Breaks (· == '\'') rest) :
    readLiteral true (text ++ '\'' :: '\'' :: '\'' :: rest) = some (text, rest) := by
  induction text generalizing run with
  | nil =>
      rw [List.nil_append, readLiteral, if_pos rfl, if_pos rfl, closing_none breaks, Option.some_or]
  | cons c text ih =>
      have later : ∀ d ∈ text, isTextChar d = true ∨ d = '\n' :=
        fun d member => shown d (List.mem_cons_of_mem c member)
      by_cases quote : c = '\''
      · subst quote
        rw [longestRun_cons_self] at short
        rw [List.cons_append, readLiteral, if_pos rfl, if_pos rfl, ih later short]
        rcases closing_text (Nat.succ_pos run) short breaks with ended | ended
        · rw [ended]
          rfl
        · rw [ended]
          rfl
      · rw [longestRun_cons_of_ne quote] at short
        have open_ : (isTextChar c ||
            (true && endsLine c (text ++ '\'' :: '\'' :: '\'' :: rest))) = true := by
          rcases shown c List.mem_cons_self with plain | newline
          · rw [plain, Bool.true_or]
          · rw [newline]
            rfl
        rw [List.cons_append, readLiteral_text quote open_,
          ih later (Nat.le_trans (Nat.le_max_right _ _) short)]
        rfl

end

inductive Written (text : List Char) : List Char → Prop
  | basic : Written text ('"' :: writeBasic false 0 text ++ ['"'])
  | literal (shown : ∀ c ∈ text, isTextChar c = true) (unquoted : '\'' ∉ text) :
      Written text ('\'' :: text ++ ['\''])
  | basicLines : Written text (betweenTriples '"' text (writeBasic true 0 text))
  | literalLines (shown : ∀ c ∈ text, isTextChar c = true ∨ c = '\n')
      (short : longestRun '\'' 0 text ≤ 2) : Written text (betweenTriples '\'' text text)

theorem written (text : List Char) : Written text (writeString text) := by
  have shown (clear : (!text.any isControl) = true) :
      ∀ c ∈ text, isTextChar c = true ∨ c = '\n' := by
    intro c member
    by_cases newline : c = '\n'
    · exact .inr newline
    · refine .inl (isTextChar_of_not_isControl ?_ newline)
      simp only [Bool.not_eq_true', List.any_eq_false, Bool.not_eq_true] at clear
      exact clear c member
  unfold writeString
  simp only
  split
  · exact .basic
  split
  case isTrue fits =>
    simp only [Bool.and_eq_true] at fits
    refine .literal (fun c member => ?_) (by simpa using fits.2)
    refine (shown fits.1.1 c member).resolve_right fun newline => ?_
    subst newline
    simpa [member] using fits.1.2
  split
  · exact .basicLines
  split
  case isTrue fits =>
    simp only [Bool.and_eq_true, decide_eq_true_eq] at fits
    exact .literalLines (shown fits.1) fits.2
  split
  · exact .basic
  · exact .basicLines

section

variable {quote : Char} {rest : List Char}

def isLineMark (c : Char) : Bool :=
  c == '\n' || c == '\r'

theorem isLineMark_of_isTextChar {c : Char} (shown : isTextChar c = true) :
    isLineMark c = false := by
  refine Bool.eq_false_iff.mpr fun mark => ?_
  simp only [isLineMark, Bool.or_eq_true, beq_iff_eq] at mark
  rcases mark with rfl | rfl
  · exact absurd shown (by decide)
  · exact absurd shown (by decide)

theorem newline_of_breaks (breaks : Breaks isLineMark rest) : newline rest = none := by
  unfold newline
  split
  · exact absurd (breaks_cons.mp breaks) (by decide)
  · exact absurd (breaks_cons.mp breaks) (by decide)
  · rfl

theorem openMulti?_eq_none (apart : ∀ later, rest ≠ quote :: quote :: quote :: later) :
    openMulti? quote rest = none := by
  unfold openMulti?
  split
  case h_1 =>
    refine if_neg fun same => ?_
    obtain ⟨rfl, rfl, rfl⟩ := same
    exact apart _ rfl
  case h_2 => rfl

/-- The line end after the opening quotes is dropped if it was put there, and only then. -/
theorem openMulti?_betweenTriples {text inside : List Char}
    (level : '\n' ∉ text → ∀ later, Breaks isLineMark (inside ++ quote :: later)) :
    openMulti? quote (betweenTriples quote text inside ++ rest) =
      some (inside ++ quote :: quote :: quote :: rest) := by
  have dropped : dropFirstLine ((if '\n' ∈ text then ['\n'] else []) ++
      (inside ++ quote :: quote :: quote :: rest)) = inside ++ quote :: quote :: quote :: rest := by
    split
    case isTrue => rfl
    case isFalse flat =>
      rw [List.nil_append, dropFirstLine, newline_of_breaks (level flat _)]
      rfl
  have spelled : betweenTriples quote text inside ++ rest = quote :: quote :: quote ::
      ((if '\n' ∈ text then ['\n'] else []) ++ (inside ++ quote :: quote :: quote :: rest)) := by
    simp [betweenTriples]
  rw [spelled, openMulti?, if_pos ⟨rfl, rfl, rfl⟩, dropped]

theorem breaks_writeBasic {text : List Char} (flat : '\n' ∉ text) (later : List Char) :
    Breaks isLineMark (writeBasic true 0 text ++ '"' :: later) := by
  cases text with
  | nil => exact breaks_cons.mpr rfl
  | cons c text =>
      have other : c ≠ '\n' := fun newline => flat (by rw [newline]; exact List.mem_cons_self)
      rw [writeBasic]
      split
      case isTrue quote =>
        subst quote
        exact breaks_cons.mpr rfl
      case isFalse =>
        obtain ⟨d, more, spelled, first⟩ := writeChar_eq_cons true c
        rw [spelled]
        refine breaks_cons.mpr ?_
        rcases first with rfl | ⟨rfl, carriage⟩
        · rfl
        · simp [isLineMark, other, carriage]

theorem readString_of_written {text spelled : List Char} (written : Written text spelled)
    (basicEnds : Breaks (· == '"') rest) (literalEnds : Breaks (· == '\'') rest) :
    readString (spelled ++ rest) = some (text, rest) := by
  cases written with
  | basic =>
      -- It does not open a string on many lines: a quote inside is escaped, and an empty text has
      -- two quotes with no third behind them.
      have single : openMulti? '"' ('"' :: writeBasic false 0 text ++ ['"'] ++ rest) = none := by
        refine openMulti?_eq_none fun later same => ?_
        cases text with
        | nil =>
            simp only [writeBasic, List.cons_append, List.nil_append, List.cons.injEq, true_and]
              at same
            rw [same] at basicEnds
            exact absurd (breaks_cons.mp basicEnds) (by decide)
        | cons c text =>
            obtain ⟨d, more, spelled, other⟩ :=
              writeBasic_eq_cons false 0 c text fun _ multi => by cases multi
            rw [spelled] at same
            exact other (List.cons.inj (List.cons.inj same).2).1
      have crossed : openMulti? '\'' ('"' :: writeBasic false 0 text ++ ['"'] ++ rest) = none :=
        openMulti?_eq_none fun later same => absurd (List.cons.inj same).1 (by decide)
      rw [readString, single, crossed]
      simp only [List.cons_append, List.append_assoc, List.nil_append, readLineString, if_true]
      exact readBasic_line text
  | literal shown unquoted =>
      have single : openMulti? '\'' ('\'' :: text ++ ['\''] ++ rest) = none := by
        refine openMulti?_eq_none fun later same => ?_
        cases text with
        | nil =>
            simp only [List.cons_append, List.nil_append, List.cons.injEq, true_and] at same
            rw [same] at literalEnds
            exact absurd (breaks_cons.mp literalEnds) (by decide)
        | cons c text =>
            have quote : c = '\'' := (List.cons.inj (List.cons.inj same).2).1
            exact unquoted (by rw [quote]; exact List.mem_cons_self)
      have crossed : openMulti? '"' ('\'' :: text ++ ['\''] ++ rest) = none :=
        openMulti?_eq_none fun later same => absurd (List.cons.inj same).1 (by decide)
      rw [readString, crossed, single]
      simp only [List.cons_append, List.append_assoc, List.nil_append, readLineString]
      exact readLiteral_line shown unquoted
  | basicLines =>
      rw [readString, openMulti?_betweenTriples breaks_writeBasic]
      exact readBasic_lines 0 text basicEnds
  | literalLines shown short =>
      have crossed : openMulti? '"' (betweenTriples '\'' text text ++ rest) = none := by
        refine openMulti?_eq_none fun later same => ?_
        exact absurd (List.cons.inj same).1 (by decide)
      have level (flat : '\n' ∉ text) (later : List Char) :
          Breaks isLineMark (text ++ '\'' :: later) := by
        cases text with
        | nil => exact breaks_cons.mpr rfl
        | cons c text =>
            refine breaks_cons.mpr ?_
            have plain := (shown c List.mem_cons_self).resolve_right fun newline =>
              flat (by rw [newline]; exact List.mem_cons_self)
            exact isLineMark_of_isTextChar plain
      rw [readString, crossed, openMulti?_betweenTriples level]
      exact readLiteral_lines shown short literalEnds

theorem readString_writeString (text : List Char) (basicEnds : Breaks (· == '"') rest)
    (literalEnds : Breaks (· == '\'') rest) :
    readString (writeString text ++ rest) = some (text, rest) :=
  readString_of_written (written text) basicEnds literalEnds

end

end WideColumn.Toml
