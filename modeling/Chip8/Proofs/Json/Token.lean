import Chip8.Json.Token
import Chip8.Proofs.Json.Lexeme

namespace Chip8.Json

namespace Token

/-- The tokens of a text, found with any fuel that is enough. -/
def Scans (s : List Char) (ts : List Token) : Prop := ∀ fuel, s.length ≤ fuel → scanUpTo fuel s = ts

variable {s rest : List Char} {ts : List Token}

theorem scan_of_scans (h : Scans s ts) : scan s = ts := h s.length (Nat.le_refl _)

theorem scans_nil : Scans [] [] := by
  intro fuel _
  cases fuel <;> rfl

/-- A token in front of text that is split into tokens. -/
theorem Scans.token {c : Char} {t : Token} (h : Scans rest ts) (hc : isBlank c = false)
    (hr : read c s = (t, rest)) (ht : t.isSound) (hl : rest.length ≤ s.length) :
    Scans (c :: s) (t :: ts) := by
  intro fuel hf
  cases fuel with
  | zero => cases hf
  | succ fuel =>
    have hs : s.length ≤ fuel := Nat.le_of_succ_le_succ hf
    have hrest := h fuel (Nat.le_trans hl hs)
    simp [scanUpTo, hc, hr, ht, hrest]

theorem Scans.blank {c : Char} (h : Scans s ts) (hc : isBlank c) : Scans (c :: s) ts := by
  intro fuel hf
  cases fuel with
  | zero => cases hf
  | succ fuel =>
    have hs := h fuel (Nat.le_of_succ_le_succ hf)
    simp [scanUpTo, hc, hs]

theorem Scans.openBrace (h : Scans s ts) : Scans ('\x7b' :: s) (.openBrace :: ts) :=
  h.token rfl rfl rfl (Nat.le_refl _)

theorem Scans.closeBrace (h : Scans s ts) : Scans ('\x7d' :: s) (.closeBrace :: ts) :=
  h.token rfl rfl rfl (Nat.le_refl _)

theorem Scans.openBracket (h : Scans s ts) : Scans ('[' :: s) (.openBracket :: ts) :=
  h.token rfl rfl rfl (Nat.le_refl _)

theorem Scans.closeBracket (h : Scans s ts) : Scans (']' :: s) (.closeBracket :: ts) :=
  h.token rfl rfl rfl (Nat.le_refl _)

theorem Scans.colon (h : Scans s ts) : Scans (':' :: s) (.colon :: ts) :=
  h.token rfl rfl rfl (Nat.le_refl _)

theorem Scans.comma (h : Scans s ts) : Scans (',' :: s) (.comma :: ts) :=
  h.token rfl rfl rfl (Nat.le_refl _)

theorem Scans.spaces (h : Scans s ts) (n : Nat) : Scans (List.replicate n ' ' ++ s) ts := by
  induction n with
  | zero => exact h
  | succ n ih => exact ih.blank rfl

theorem Scans.newLine (h : Scans s ts) (depth : Nat) : Scans (newLine depth s) ts :=
  (h.spaces (2 * depth)).blank rfl

/-- A text does not get shorter by being escaped. -/
theorem length_le_writeString (cs s : List Char) :
    s.length ≤ (cs.foldr (fun c rest => escapedChar c ++ rest) s).length := by
  induction cs with
  | nil => exact Nat.le_refl _
  | cons c cs ih =>
    rw [List.foldr_cons, List.length_append]
    exact Nat.le_trans ih (Nat.le_add_left _ _)

theorem read_string (s : List Char) :
    read '"' s = (.string (Lexeme.readString s (.ok [])).1, (Lexeme.readString s (.ok [])).2) := rfl

/-- A string, escaped in whatever way, that is read up to its closing quote. -/
theorem Scans.quoted (h : Scans rest ts) {l : Lexeme String} (hread : Lexeme.readString s (.ok []) = (l, rest))
    (hl : l.loose.isOk) (hlen : rest.length ≤ s.length) : Scans ('"' :: s) (.string l :: ts) := by
  have htoken := read_string s
  rw [hread] at htoken
  exact h.token rfl htoken hl hlen

theorem Scans.string (h : Scans s ts) (text : String) :
    Scans (writeString text s) (.string (.ofString text) :: ts) := by
  have hlen := length_le_writeString text.toList ('"' :: s)
  exact h.quoted (Lexeme.readString_text text s) rfl (Nat.le_of_succ_le hlen)

theorem read_number {c : Char} (hc : c = '-' ∨ c.isDigit) (s : List Char) :
    read c s = (.number (Lexeme.readNumber (c :: s)).1, (Lexeme.readNumber (c :: s)).2) := by
  have hne : ∀ d, d ≠ '-' → d.isDigit = false → c ≠ d := by
    rintro d hd hdigit rfl
    rcases hc with rfl | hc
    · exact hd rfl
    · rw [hdigit] at hc
      cases hc
  simp [read, hc, hne]

theorem isBlank_number {c : Char} (hc : c = '-' ∨ c.isDigit) : isBlank c = false := by
  cases hb : isBlank c with
  | false => rfl
  | true =>
    have hcases : ((c = ' ' ∨ c = '\n') ∨ c = '\t') ∨ c = '\r' := by simpa [isBlank] using hb
    rcases hcases with ((rfl | rfl) | rfl) | rfl <;> exact absurd hc (by decide)

/-- A number, written in whatever way, that is read up to the text after it. -/
theorem Scans.numeral (h : Scans rest ts) {c : Char} {l : Lexeme Number} (hc : c = '-' ∨ c.isDigit)
    (hread : Lexeme.readNumber (c :: s) = (l, rest)) (hl : l.loose.isOk) (hlen : rest.length ≤ s.length) :
    Scans (c :: s) (.number l :: ts) := by
  have htoken := read_number hc s
  rw [hread] at htoken
  exact h.token (isBlank_number hc) htoken hl hlen

theorem Scans.number (h : Scans s ts) (hs : Lexeme.EndsNumber s) {n : Number} (hn : n.Exact) :
    Scans (n.text.toList ++ s) (.number (.ofNumber n) :: ts) := by
  have hread := Lexeme.readNumber_text hn hs
  obtain ⟨c, cs, hcs, hc⟩ := Lexeme.exists_text_eq hn
  rw [hcs, List.cons_append] at hread ⊢
  refine h.numeral hc hread rfl ?_
  rw [List.length_append]
  exact Nat.le_add_left _ _

end Token

mutual

/-- A value that text gives back: its whole numbers are kept exactly, the names of its objects are in order,
and it is nested at most `depth` deep. -/
def Kept : (depth : Nat) → Json → Prop
  | _, .null | _, .bool _ | _, .string _ => True
  | _, .number n => n.Exact
  | 0, .array _ | 0, .object _ => False
  | depth + 1, .array items => KeptItems depth items
  | depth + 1, .object members => (members.map Prod.fst).Pairwise (· < ·) ∧ KeptMembers depth members

def KeptItems (depth : Nat) : List Json → Prop
  | [] => True
  | v :: vs => Kept depth v ∧ KeptItems depth vs

def KeptMembers (depth : Nat) : List (String × Json) → Prop
  | [] => True
  | (_, v) :: ms => Kept depth v ∧ KeptMembers depth ms

end

mutual

/-- A value whose numbers are all kept exactly by their text. -/
def Exact : Json → Prop
  | .null | .bool _ | .string _ => True
  | .number n => n.Exact
  | .array items => ExactItems items
  | .object members => ExactMembers members

def ExactItems : List Json → Prop
  | [] => True
  | v :: vs => Exact v ∧ ExactItems vs

/-- Members whose numbers are all kept exactly. -/
def ExactMembers : List (String × Json) → Prop
  | [] => True
  | (_, v) :: ms => Exact v ∧ ExactMembers ms

end

theorem Kept.of_array {depth : Nat} {items : List Json} (h : Kept depth (.array items)) :
    ∃ below, depth = below + 1 ∧ KeptItems below items := by
  cases depth with
  | zero => exact h.elim
  | succ below => exact ⟨below, rfl, h⟩

theorem Kept.of_object {depth : Nat} {members : List (String × Json)} (h : Kept depth (.object members)) :
    ∃ below, depth = below + 1 ∧ (members.map Prod.fst).Pairwise (· < ·) ∧ KeptMembers below members := by
  cases depth with
  | zero => exact h.elim
  | succ below => exact ⟨below, rfl, h⟩

mutual

theorem Kept.exact {v : Json} {depth : Nat} (h : Kept depth v) : Exact v := by
  cases v with
  | number n => cases depth <;> exact h
  | array items =>
    obtain ⟨below, -, hitems⟩ := h.of_array
    exact KeptItems.exact hitems
  | object members =>
    obtain ⟨below, -, -, hmembers⟩ := h.of_object
    exact KeptMembers.exact hmembers
  | _ => trivial

theorem KeptItems.exact {vs : List Json} {depth : Nat} (h : KeptItems depth vs) : ExactItems vs := by
  cases vs with
  | nil => trivial
  | cons v vs => exact ⟨Kept.exact h.1, KeptItems.exact h.2⟩

theorem KeptMembers.exact {ms : List (String × Json)} {depth : Nat} (h : KeptMembers depth ms) : ExactMembers ms := by
  cases ms with
  | nil => trivial
  | cons m ms => exact ⟨Kept.exact h.1, KeptMembers.exact h.2⟩

end

/-- The tokens of a value without items or members, in front of `rest`. -/
def scalarTokens (v : Json) (rest : List Token) : List Token :=
  match v with
  | .null => .literal (.ok .null) :: rest
  | .bool true => .literal (.ok .true) :: rest
  | .bool false => .literal (.ok .false) :: rest
  | .number n => .number (.ofNumber n) :: rest
  | .string s => .string (.ofString s) :: rest
  | .array _ => .openBracket :: .closeBracket :: rest
  | .object _ => .openBrace :: .closeBrace :: rest

mutual

/-- The tokens of a value, in front of `rest`. -/
def tokens : Json → (rest : List Token) → List Token
  | .array (v :: vs), rest => .openBracket :: tokens v (itemTokens vs (.closeBracket :: rest))
  | .object ((name, v) :: ms), rest =>
    .openBrace :: .string (.ofString name) :: .colon :: tokens v (memberTokens ms (.closeBrace :: rest))
  | v, rest => scalarTokens v rest

/-- The tokens of further items, each after a comma. -/
def itemTokens : List Json → (rest : List Token) → List Token
  | [], rest => rest
  | v :: vs, rest => .comma :: tokens v (itemTokens vs rest)

/-- The tokens of further members, each after a comma. -/
def memberTokens : List (String × Json) → (rest : List Token) → List Token
  | [], rest => rest
  | (name, v) :: ms, rest =>
    .comma :: .string (.ofString name) :: .colon :: tokens v (memberTokens ms rest)

end

section Printed

open Token Lexeme

variable {items : List Json} {members : List (String × Json)} {rest : List Char} {ts : List Token}

theorem ends_bracket : EndsNumber (']' :: rest) := ⟨rfl, by decide, by decide, by decide⟩

theorem ends_brace : EndsNumber ('\x7d' :: rest) := ⟨rfl, by decide, by decide, by decide⟩

theorem ends_comma : EndsNumber (',' :: rest) := ⟨rfl, by decide, by decide, by decide⟩

theorem ends_newLine (n : Nat) : EndsNumber (newLine n rest) := ⟨rfl, by decide, by decide, by decide⟩

theorem ends_compactItems (h : EndsNumber rest) : EndsNumber (writeCompactItems items rest) := by
  cases items with
  | nil => exact h
  | cons v vs => exact ends_comma

theorem ends_compactMembers (h : EndsNumber rest) : EndsNumber (writeCompactMembers members rest) := by
  cases members with
  | nil => exact h
  | cons m ms => exact ends_comma

theorem ends_laidOutItems (n : Nat) (h : EndsNumber rest) : EndsNumber (writeLaidOutItems n items rest) := by
  cases items with
  | nil => exact h
  | cons v vs => exact ends_comma

theorem ends_laidOutMembers (n : Nat) (h : EndsNumber rest) :
    EndsNumber (writeLaidOutMembers n members rest) := by
  cases members with
  | nil => exact h
  | cons m ms => exact ends_comma

theorem scans_literal (l : Literal) {c : Char} (hc : isBlank c = false)
    (hr : read c (l.rest ++ rest) = (.literal (.ok l), rest)) (h : Scans rest ts) :
    Scans (c :: (l.rest ++ rest)) (.literal (.ok l) :: ts) := by
  refine h.token hc hr rfl ?_
  rw [List.length_append]
  exact Nat.le_add_left _ _

theorem scans_scalar {v : Json} (hv : Exact v) (hr : EndsNumber rest) (h : Scans rest ts) :
    Scans (writeScalar v rest) (scalarTokens v ts) := by
  cases v with
  | null => exact scans_literal .null rfl rfl h
  | bool b =>
    cases b with
    | true => exact scans_literal .true rfl rfl h
    | false => exact scans_literal .false rfl rfl h
  | number n => exact h.number hr hv
  | string s => exact h.string s
  | array items => exact h.closeBracket.openBracket
  | object members => exact h.closeBrace.openBrace

mutual

/-- A value in compact form is split into its tokens. -/
theorem scans_compact {v : Json} (hv : Exact v) {rest : List Char} {ts : List Token}
    (hr : EndsNumber rest) (h : Scans rest ts) : Scans (writeCompact v rest) (tokens v ts) := by
  cases v with
  | array items =>
    cases items with
    | nil => exact scans_scalar hv hr h
    | cons v vs =>
      obtain ⟨hv, hvs⟩ : Exact v ∧ ExactItems vs := hv
      have hitems := scans_compactItems hvs ends_bracket h.closeBracket
      exact (scans_compact hv (ends_compactItems ends_bracket) hitems).openBracket
  | object members =>
    cases members with
    | nil => exact scans_scalar hv hr h
    | cons m ms =>
      obtain ⟨name, v⟩ := m
      obtain ⟨hv, hms⟩ : Exact v ∧ ExactMembers ms := hv
      have hmembers := scans_compactMembers hms ends_brace h.closeBrace
      have hvalue := scans_compact hv (ends_compactMembers ends_brace) hmembers
      exact (hvalue.colon.string name).openBrace
  | _ => exact scans_scalar hv hr h

theorem scans_compactItems {vs : List Json} (hvs : ExactItems vs) {rest : List Char}
    {ts : List Token} (hr : EndsNumber rest) (h : Scans rest ts) :
    Scans (writeCompactItems vs rest) (itemTokens vs ts) := by
  cases vs with
  | nil => exact h
  | cons v vs =>
    have hitems := scans_compactItems hvs.2 hr h
    exact (scans_compact hvs.1 (ends_compactItems hr) hitems).comma

theorem scans_compactMembers {ms : List (String × Json)} (hms : ExactMembers ms)
    {rest : List Char} {ts : List Token} (hr : EndsNumber rest) (h : Scans rest ts) :
    Scans (writeCompactMembers ms rest) (memberTokens ms ts) := by
  cases ms with
  | nil => exact h
  | cons m ms =>
    obtain ⟨name, v⟩ := m
    have hmembers := scans_compactMembers hms.2 hr h
    have hvalue := scans_compact hms.1 (ends_compactMembers hr) hmembers
    exact (hvalue.colon.string name).comma

end

mutual

/-- A value laid out on lines is split into its tokens. -/
theorem scans_laidOut (n : Nat) {v : Json} (hv : Exact v) {rest : List Char}
    {ts : List Token} (hr : EndsNumber rest) (h : Scans rest ts) :
    Scans (writeLaidOut n v rest) (tokens v ts) := by
  cases v with
  | array items =>
    cases items with
    | nil => exact scans_scalar hv hr h
    | cons v vs =>
      obtain ⟨hv, hvs⟩ : Exact v ∧ ExactItems vs := hv
      have hitems := scans_laidOutItems (n + 1) hvs (ends_newLine n) (h.closeBracket.newLine n)
      have hvalue := scans_laidOut (n + 1) hv (ends_laidOutItems (n + 1) (ends_newLine n)) hitems
      exact (hvalue.newLine (n + 1)).openBracket
  | object members =>
    cases members with
    | nil => exact scans_scalar hv hr h
    | cons m ms =>
      obtain ⟨name, v⟩ := m
      obtain ⟨hv, hms⟩ : Exact v ∧ ExactMembers ms := hv
      have hmembers := scans_laidOutMembers (n + 1) hms (ends_newLine n) (h.closeBrace.newLine n)
      have hvalue := scans_laidOut (n + 1) hv (ends_laidOutMembers (n + 1) (ends_newLine n)) hmembers
      exact (((hvalue.blank rfl).colon.string name).newLine (n + 1)).openBrace
  | _ => exact scans_scalar hv hr h

theorem scans_laidOutItems (n : Nat) {vs : List Json} (hvs : ExactItems vs)
    {rest : List Char} {ts : List Token} (hr : EndsNumber rest) (h : Scans rest ts) :
    Scans (writeLaidOutItems n vs rest) (itemTokens vs ts) := by
  cases vs with
  | nil => exact h
  | cons v vs =>
    have hitems := scans_laidOutItems n hvs.2 hr h
    have hvalue := scans_laidOut n hvs.1 (ends_laidOutItems n hr) hitems
    exact (hvalue.newLine n).comma

theorem scans_laidOutMembers (n : Nat) {ms : List (String × Json)}
    (hms : ExactMembers ms) {rest : List Char} {ts : List Token} (hr : EndsNumber rest)
    (h : Scans rest ts) : Scans (writeLaidOutMembers n ms rest) (memberTokens ms ts) := by
  cases ms with
  | nil => exact h
  | cons m ms =>
    obtain ⟨name, v⟩ := m
    have hmembers := scans_laidOutMembers n hms.2 hr h
    have hvalue := scans_laidOut n hms.1 (ends_laidOutMembers n hr) hmembers
    exact (((hvalue.blank rfl).colon.string name).newLine n).comma

end

end Printed

end Chip8.Json
