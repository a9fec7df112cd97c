import Chip8.Proofs.Json.Document
import Chip8.Proofs.Json.Spelling

namespace Chip8.Json

/-- A value as it is written, white space apart. -/
inductive Written where
  | null
  | bool (b : Bool)
  | number (n : Numeral)
  | string (letters : List Letter)
  | array (items : List Written)
  | object (members : List (Name × Written))

/-- A piece of JSON text that white space does not interrupt. -/
inductive Piece where
  | openBrace
  | closeBrace
  | openBracket
  | closeBracket
  | colon
  | comma
  | null
  | bool (b : Bool)
  | number (n : Numeral)
  | string (letters : List Letter)

namespace Piece

def text : Piece → List Char
  | .openBrace => ['\x7b']
  | .closeBrace => ['\x7d']
  | .openBracket => ['[']
  | .closeBracket => [']']
  | .colon => [':']
  | .comma => [',']
  | .null => ['n', 'u', 'l', 'l']
  | .bool true => ['t', 'r', 'u', 'e']
  | .bool false => ['f', 'a', 'l', 's', 'e']
  | .number n => n.text
  | .string letters => '"' :: (spelled letters ++ ['"'])

def token : Piece → Token
  | .openBrace => .openBrace
  | .closeBrace => .closeBrace
  | .openBracket => .openBracket
  | .closeBracket => .closeBracket
  | .colon => .colon
  | .comma => .comma
  | .null => .literal (.ok .null)
  | .bool true => .literal (.ok .true)
  | .bool false => .literal (.ok .false)
  | .number n => .number (.ofParts n.parts)
  | .string letters => .string (.ofLetters letters)

def isNumber : Piece → Bool
  | .number _ => true
  | _ => false

end Piece

/-- A text of pieces in order, with white space before, between and after them. -/
inductive Spaced : List Piece → List Char → Prop where
  | nil : Spaced [] []
  | blank {c : Char} {ps : List Piece} {s : List Char} (hc : c ∈ [' ', '\n', '\t', '\r']) (h : Spaced ps s) :
      Spaced ps (c :: s)
  | piece {ps : List Piece} {s : List Char} (p : Piece) (h : Spaced ps s) : Spaced (p :: ps) (p.text ++ s)

namespace Written

mutual

/-- The pieces of what is written, in front of `rest`. -/
def pieces : Written → (rest : List Piece) → List Piece
  | .null, rest => .null :: rest
  | .bool b, rest => .bool b :: rest
  | .number n, rest => .number n :: rest
  | .string letters, rest => .string letters :: rest
  | .array [], rest => .openBracket :: .closeBracket :: rest
  | .array (w :: ws), rest => .openBracket :: w.pieces (itemPieces ws (.closeBracket :: rest))
  | .object [], rest => .openBrace :: .closeBrace :: rest
  | .object ((name, w) :: ms), rest =>
    .openBrace :: .string name.letters :: .colon :: w.pieces (memberPieces ms (.closeBrace :: rest))

/-- The pieces of further items, each after a comma. -/
def itemPieces : List Written → (rest : List Piece) → List Piece
  | [], rest => rest
  | w :: ws, rest => .comma :: w.pieces (itemPieces ws rest)

/-- The pieces of further members, each after a comma. -/
def memberPieces : List (Name × Written) → (rest : List Piece) → List Piece
  | [], rest => rest
  | (name, w) :: ms, rest => .comma :: .string name.letters :: .colon :: w.pieces (memberPieces ms rest)

end

/-- The text spells what is written, with any white space. -/
def Spells (w : Written) (s : String) : Prop := Spaced (w.pieces []) s.toList

mutual

def document : Written → Document
  | .null => .literal .null
  | .bool true => .literal .true
  | .bool false => .literal .false
  | .number n => .number (.ofParts n.parts)
  | .string letters => .string (.ofLetters letters)
  | .array items => .array (itemDocuments items) .closed
  | .object members => .object (memberDocuments members) .closed

def itemDocuments : List Written → List Document
  | [] => []
  | w :: ws => w.document :: itemDocuments ws

def memberDocuments : List (Name × Written) → List (Lexeme String × Document)
  | [] => []
  | (name, w) :: ms => (.ofString name.text, w.document) :: memberDocuments ms

end

end Written

section Reading

open Token

variable {p : Piece} {ps : List Piece} {s : List Char} {ts : List Token}

theorem isBlank_of_mem {c : Char} (hc : c ∈ [' ', '\n', '\t', '\r']) : isBlank c := by
  simp only [List.mem_cons, List.not_mem_nil, or_false] at hc
  rcases hc with rfl | rfl | rfl | rfl <;> rfl

/-- Pieces of which none goes on with a number before it. -/
def Separated : List Piece → Prop
  | [] => True
  | p :: ps => (p.isNumber → ∀ q ∈ ps.head?, q.isNumber = false) ∧ Separated ps

/-- White space ends a number, and so does every piece that is no number itself. -/
theorem endsNumber_of_spaced (h : Spaced ps s) (hp : ∀ p ∈ ps.head?, p.isNumber = false) :
    Lexeme.EndsNumber s := by
  cases h with
  | nil => trivial
  | blank hc h =>
    simp only [List.mem_cons, List.not_mem_nil, or_false] at hc
    rcases hc with rfl | rfl | rfl | rfl <;> exact ⟨rfl, by decide, by decide, by decide⟩
  | piece p h =>
    have hnumber := hp p rfl
    cases p with
    | number n => cases hnumber
    | bool b => cases b <;> exact ⟨rfl, by decide, by decide, by decide⟩
    | _ => exact ⟨rfl, by decide, by decide, by decide⟩

theorem scans_piece (p : Piece) (h : Scans s ts) (hn : p.isNumber → Lexeme.EndsNumber s) :
    Scans (p.text ++ s) (p.token :: ts) := by
  cases p with
  | openBrace => exact h.openBrace
  | closeBrace => exact h.closeBrace
  | openBracket => exact h.openBracket
  | closeBracket => exact h.closeBracket
  | colon => exact h.colon
  | comma => exact h.comma
  | null => exact scans_literal .null rfl rfl h
  | bool b =>
    cases b with
    | true => exact scans_literal .true rfl rfl h
    | false => exact scans_literal .false rfl rfl h
  | number n =>
    have hread := readNumber_numeral n (hn rfl)
    obtain ⟨c, cs, hcs, hc⟩ := exists_numeral_cons n
    rw [hcs, List.cons_append] at hread
    rw [Piece.text, hcs, List.cons_append]
    refine h.numeral hc hread rfl ?_
    rw [List.length_append]
    exact Nat.le_add_left _ _
  | string letters =>
    have hread := readString_letters letters s
    have hloose : (Lexeme.ofLetters letters).loose.isOk := by
      rw [loose_ofLetters]
      rfl
    have htext : (Piece.string letters).text ++ s = '"' :: (spelled letters ++ '"' :: s) := by simp [Piece.text]
    rw [htext]
    refine h.quoted hread hloose ?_
    rw [List.length_append, List.length_cons]
    omega

/-- A text of separated pieces is split into their tokens. -/
theorem scans_of_spaced (h : Spaced ps s) (hps : Separated ps) : Scans s (ps.map Piece.token) := by
  induction h with
  | nil => exact scans_nil
  | blank hc _ ih => exact (ih hps).blank (isBlank_of_mem hc)
  | piece p h ih => exact scans_piece p (ih hps.2) fun hn => endsNumber_of_spaced h (hps.1 hn)

/-- Separated pieces that do not start with a number. -/
def Closes (ps : List Piece) : Prop := Separated ps ∧ ∀ p ∈ ps.head?, p.isNumber = false

theorem separated_cons (hp : p.isNumber = false) (h : Separated ps) : Separated (p :: ps) :=
  ⟨fun hn => absurd hn (Bool.eq_false_iff.mp hp), h⟩

theorem closes_cons (hp : p.isNumber = false) (h : Separated ps) : Closes (p :: ps) := by
  refine ⟨separated_cons hp h, ?_⟩
  rintro q ⟨⟩
  exact hp

-- The pieces, their separation, the document and what skipping it says follow the layout of what is written.
mutual

theorem separated_pieces (w : Written) {rest : List Piece} (h : Closes rest) : Separated (w.pieces rest) := by
  cases w with
  | number n => exact ⟨fun _ => h.2, h.1⟩
  | array items =>
    have hclose := closes_cons (p := .closeBracket) rfl h.1
    cases items with
    | nil => exact separated_cons rfl hclose.1
    | cons w ws => exact separated_cons rfl (separated_pieces w (closes_itemPieces ws hclose))
  | object members =>
    have hclose := closes_cons (p := .closeBrace) rfl h.1
    cases members with
    | nil => exact separated_cons rfl hclose.1
    | cons m ms =>
      have hvalue := separated_pieces m.2 (closes_memberPieces ms hclose)
      exact separated_cons rfl (separated_cons rfl (separated_cons rfl hvalue))
  | _ => exact separated_cons rfl h.1

theorem closes_itemPieces (ws : List Written) {rest : List Piece} (h : Closes rest) :
    Closes (Written.itemPieces ws rest) := by
  cases ws with
  | nil => exact h
  | cons w ws => exact closes_cons rfl (separated_pieces w (closes_itemPieces ws h))

theorem closes_memberPieces (ms : List (Name × Written)) {rest : List Piece} (h : Closes rest) :
    Closes (Written.memberPieces ms rest) := by
  cases ms with
  | nil => exact h
  | cons m ms =>
    have hvalue := separated_pieces m.2 (closes_memberPieces ms h)
    exact closes_cons rfl (separated_cons rfl (separated_cons rfl hvalue))

end

mutual

theorem closed_written (w : Written) : w.document.Closed := by
  cases w with
  | bool b => cases b <;> trivial
  | array items => exact ⟨rfl, closedItems_written items⟩
  | object members => exact ⟨rfl, closedMembers_written members⟩
  | _ => trivial

theorem closedItems_written (ws : List Written) : Document.ClosedItems (Written.itemDocuments ws) := by
  cases ws with
  | nil => trivial
  | cons w ws => exact ⟨closed_written w, closedItems_written ws⟩

theorem closedMembers_written (ms : List (Name × Written)) :
    Document.ClosedMembers (Written.memberDocuments ms) := by
  cases ms with
  | nil => trivial
  | cons m ms => exact ⟨closed_written m.2, closedMembers_written ms⟩

end

theorem token_name (name : Name) : (Piece.string name.letters).token = .string (.ofString name.text) :=
  congrArg Token.string (ofLetters_name name)

mutual

/-- The pieces are read as the tokens of the document. -/
theorem tokens_written (w : Written) (rest : List Piece) :
    (w.pieces rest).map Piece.token = w.document.tokens (rest.map Piece.token) := by
  cases w with
  | bool b => cases b <;> rfl
  | array items =>
    cases items with
    | nil => rfl
    | cons w ws =>
      have hitems := itemTokens_written ws (.closeBracket :: rest)
      exact congrArg (.openBracket :: ·) ((tokens_written w _).trans (congrArg _ hitems))
  | object members =>
    cases members with
    | nil => rfl
    | cons m ms =>
      obtain ⟨name, w⟩ := m
      have hmembers := memberTokens_written ms (.closeBrace :: rest)
      have hvalue := (tokens_written w _).trans (congrArg _ hmembers)
      rw [Written.pieces, List.map_cons, List.map_cons, List.map_cons, hvalue, token_name]
      rfl
  | _ => rfl

theorem itemTokens_written (ws : List Written) (rest : List Piece) :
    (Written.itemPieces ws rest).map Piece.token =
      Document.itemTokens (Written.itemDocuments ws) (rest.map Piece.token) := by
  cases ws with
  | nil => rfl
  | cons w ws =>
    have hitems := itemTokens_written ws rest
    exact congrArg (.comma :: ·) ((tokens_written w _).trans (congrArg _ hitems))

theorem memberTokens_written (ms : List (Name × Written)) (rest : List Piece) :
    (Written.memberPieces ms rest).map Piece.token =
      Document.memberTokens (Written.memberDocuments ms) (rest.map Piece.token) := by
  cases ms with
  | nil => rfl
  | cons m ms =>
    obtain ⟨name, w⟩ := m
    have hmembers := memberTokens_written ms rest
    have hvalue := (tokens_written w _).trans (congrArg _ hmembers)
    rw [Written.memberPieces, List.map_cons, List.map_cons, List.map_cons, hvalue, token_name]
    rfl

end

namespace Written

/-- A text that spells what is written holds its document and nothing after it. -/
theorem ofText_of_spells {w : Written} {s : String} (h : w.Spells s) : Document.ofText s = ⟨w.document, false⟩ := by
  have hscans := scans_of_spaced h (separated_pieces w ⟨trivial, nofun⟩)
  rw [tokens_written] at hscans
  have hdocument := Document.ofText_of_scans (closed_written w) hscans
  rwa [String.ofList_toList] at hdocument

mutual

/-- Nothing is in the way of a reader that skips over it. -/
theorem skim_document (w : Written) : w.document.skim = .ok () := by
  cases w with
  | bool b => cases b <;> rfl
  | string letters => exact loose_ofLetters letters
  | array items =>
    have hitems := skimItems_documents items
    simp [document, Document.skim, hitems, Document.looseListEnd, Document.listEnd]
  | object members =>
    have hmembers := skimMembers_documents members
    simp [document, Document.skim, hmembers, Document.looseObjectEnd, Document.objectEnd]
  | _ => rfl

theorem skimItems_documents (ws : List Written) : Document.skimItems (itemDocuments ws) = .ok () := by
  cases ws with
  | nil => rfl
  | cons w ws =>
    have hfirst := skim_document w
    have hrest := skimItems_documents ws
    simp [itemDocuments, Document.skimItems, hfirst, hrest]

theorem skimMembers_documents (ms : List (Name × Written)) : Document.skimMembers (memberDocuments ms) = .ok () := by
  cases ms with
  | nil => rfl
  | cons m ms =>
    obtain ⟨name, w⟩ := m
    have hfirst := skim_document w
    have hrest := skimMembers_documents ms
    simp [memberDocuments, Document.skimMembers, Lexeme.ofString, hfirst, hrest]

end

end Written

end Reading

end Chip8.Json
