import Chip8.Json.Document
import Chip8.Proofs.Json.Token
import Chip8.Proofs.Outcome

namespace Chip8.Json

mutual

def document : Json → Document
  | .null => .literal .null
  | .bool true => .literal .true
  | .bool false => .literal .false
  | .number n => .number (.ofNumber n)
  | .string s => .string (.ofString s)
  | .array items => .array (itemDocuments items) .closed
  | .object members => .object (memberDocuments members) .closed

def itemDocuments : List Json → List Document
  | [] => []
  | v :: vs => document v :: itemDocuments vs

def memberDocuments : List (String × Json) → List (Lexeme String × Document)
  | [] => []
  | (name, v) :: ms => (.ofString name, document v) :: memberDocuments ms

end

mutual

/-- A document without anything wrong in its layout. -/
def Document.Closed : Document → Prop
  | .literal _ | .number _ | .string _ => True
  | .array items ending => ending = .closed ∧ ClosedItems items
  | .object members ending => ending = .closed ∧ ClosedMembers members
  | .absent _ => False

/-- Items without anything wrong in their layout. -/
def Document.ClosedItems : List Document → Prop
  | [] => True
  | d :: ds => d.Closed ∧ ClosedItems ds

/-- Members without anything wrong in their layout. -/
def Document.ClosedMembers : List (Lexeme String × Document) → Prop
  | [] => True
  | (_, d) :: ms => d.Closed ∧ ClosedMembers ms

end

mutual

/-- The tokens of a closed document, in front of `rest`. -/
def Document.tokens : Document → (rest : List Token) → List Token
  | .literal l, rest => .literal (.ok l) :: rest
  | .number n, rest => .number n :: rest
  | .string s, rest => .string s :: rest
  | .array [] _, rest => .openBracket :: .closeBracket :: rest
  | .array (d :: ds) _, rest => .openBracket :: d.tokens (itemTokens ds (.closeBracket :: rest))
  | .object [] _, rest => .openBrace :: .closeBrace :: rest
  | .object ((name, d) :: ms) _, rest =>
    .openBrace :: .string name :: .colon :: d.tokens (memberTokens ms (.closeBrace :: rest))
  | .absent _, rest => rest

/-- The tokens of further items of a closed document, each after a comma. -/
def Document.itemTokens : List Document → (rest : List Token) → List Token
  | [], rest => rest
  | d :: ds, rest => .comma :: d.tokens (itemTokens ds rest)

/-- The tokens of further members of a closed document, each after a comma. -/
def Document.memberTokens : List (Lexeme String × Document) → (rest : List Token) → List Token
  | [], rest => rest
  | (name, d) :: ms, rest => .comma :: .string name :: .colon :: d.tokens (memberTokens ms rest)

end

namespace Document

variable {d : Document} {ending : Ending}

theorem Closed.of_array {items : List Document} (h : (array items ending).Closed) :
    ending = .closed ∧ ClosedItems items := by
  rwa [Closed] at h

theorem Closed.of_object {members : List (Lexeme String × Document)} (h : (object members ending).Closed) :
    ending = .closed ∧ ClosedMembers members := by
  rwa [Closed] at h

namespace Builder

/-- A value where the first item of an array is due. -/
theorem run_firstItem (hd : d.Closed) (ts : List Token) (frames : List Frame) :
    run (d.tokens ts) ⟨.firstItem, frames⟩ = run (d.tokens ts) ⟨.value, .array [] :: frames⟩ := by
  cases d with
  | array items ending => cases items <;> rfl
  | object members ending => cases members <;> rfl
  | absent e => exact hd.elim
  | _ => rfl

/-- A value where an item after a comma is due. -/
theorem run_item (hd : d.Closed) (ts : List Token) (done : List Document) (frames : List Frame) :
    run (d.tokens ts) ⟨.item, .array done :: frames⟩ =
      run (d.tokens ts) ⟨.value, .array done :: frames⟩ := by
  cases d with
  | array items ending => cases items <;> rfl
  | object members ending => cases members <;> rfl
  | absent e => exact hd.elim
  | _ => rfl

-- By recursion on the document, for every stack of unfinished arrays and objects around it; the items and members
-- read so far stand in the innermost one, the latest first.
mutual

/-- The tokens of a closed document are built into it. -/
theorem run_tokens (d : Document) (hd : d.Closed) (ts : List Token) (frames : List Frame) :
    run (d.tokens ts) ⟨.value, frames⟩ = run ts ⟨.after d, frames⟩ := by
  cases d with
  | absent e => exact hd.elim
  | array items ending =>
    obtain ⟨rfl, hitems⟩ := hd.of_array
    cases items with
    | nil => rfl
    | cons d ds =>
      calc run (d.tokens (itemTokens ds (.closeBracket :: ts))) ⟨.firstItem, frames⟩
          = run (d.tokens (itemTokens ds (.closeBracket :: ts))) ⟨.value, .array [] :: frames⟩ :=
            run_firstItem hitems.1 _ frames
        _ = run (itemTokens ds (.closeBracket :: ts)) ⟨.after d, .array [] :: frames⟩ :=
            run_tokens d hitems.1 _ _
        _ = run ts ⟨.after (.array (d :: ds) .closed), frames⟩ := run_itemTokens ds hitems.2 ts d [] frames
  | object members ending =>
    obtain ⟨rfl, hmembers⟩ := hd.of_object
    cases members with
    | nil => rfl
    | cons m ms =>
      obtain ⟨name, d⟩ := m
      calc run (d.tokens (memberTokens ms (.closeBrace :: ts))) ⟨.value, .object [] name :: frames⟩
          = run (memberTokens ms (.closeBrace :: ts)) ⟨.after d, .object [] name :: frames⟩ :=
            run_tokens d hmembers.1 _ _
        _ = run ts ⟨.after (.object ((name, d) :: ms) .closed), frames⟩ :=
            run_memberTokens ms hmembers.2 ts name d [] frames
  | _ => rfl

theorem run_itemTokens (ds : List Document) (hds : ClosedItems ds) (ts : List Token) (d : Document)
    (done : List Document) (frames : List Frame) :
    run (itemTokens ds (.closeBracket :: ts)) ⟨.after d, .array done :: frames⟩ =
      run ts ⟨.after (.array (done.reverse ++ d :: ds) .closed), frames⟩ := by
  cases ds with
  | nil =>
    rw [← List.reverse_cons]
    rfl
  | cons e ds =>
    have hdone : done.reverse ++ d :: e :: ds = (d :: done).reverse ++ e :: ds := by simp
    calc run (e.tokens (itemTokens ds (.closeBracket :: ts))) ⟨.item, .array (d :: done) :: frames⟩
        = run (e.tokens (itemTokens ds (.closeBracket :: ts))) ⟨.value, .array (d :: done) :: frames⟩ :=
          run_item hds.1 _ _ _
      _ = run (itemTokens ds (.closeBracket :: ts)) ⟨.after e, .array (d :: done) :: frames⟩ :=
          run_tokens e hds.1 _ _
      _ = run ts ⟨.after (.array ((d :: done).reverse ++ e :: ds) .closed), frames⟩ :=
          run_itemTokens ds hds.2 ts e (d :: done) frames
      _ = _ := by rw [hdone]

theorem run_memberTokens (ms : List (Lexeme String × Document)) (hms : ClosedMembers ms) (ts : List Token)
    (name : Lexeme String) (d : Document) (done : List (Lexeme String × Document)) (frames : List Frame) :
    run (memberTokens ms (.closeBrace :: ts)) ⟨.after d, .object done name :: frames⟩ =
      run ts ⟨.after (.object (done.reverse ++ (name, d) :: ms) .closed), frames⟩ := by
  cases ms with
  | nil =>
    rw [← List.reverse_cons]
    rfl
  | cons m ms =>
    obtain ⟨other, e⟩ := m
    have hdone : done.reverse ++ (name, d) :: (other, e) :: ms = ((name, d) :: done).reverse ++ (other, e) :: ms := by
      simp
    calc run (e.tokens (memberTokens ms (.closeBrace :: ts))) ⟨.value, .object ((name, d) :: done) other :: frames⟩
        = run (memberTokens ms (.closeBrace :: ts)) ⟨.after e, .object ((name, d) :: done) other :: frames⟩ :=
          run_tokens e hms.1 _ _
      _ = run ts ⟨.after (.object (((name, d) :: done).reverse ++ (other, e) :: ms) .closed), frames⟩ :=
          run_memberTokens ms hms.2 ts other e ((name, d) :: done) frames
      _ = _ := by rw [hdone]

end

end Builder

/-- A text whose tokens are those of a closed document holds that document and nothing after it. -/
theorem ofText_of_scans {s : List Char} (hd : d.Closed) (h : Token.Scans s (d.tokens [])) :
    Document.ofText (String.ofList s) = ⟨d, false⟩ := by
  rw [Document.ofText, String.toList_ofList, Token.scan_of_scans h, Builder.start, Builder.run_tokens d hd]
  rfl

end Document

mutual

theorem closed_document (v : Json) : v.document.Closed := by
  cases v with
  | bool b => cases b <;> trivial
  | array items => exact ⟨rfl, closedItems_documents items⟩
  | object members => exact ⟨rfl, closedMembers_documents members⟩
  | _ => trivial

theorem closedItems_documents (vs : List Json) : Document.ClosedItems (itemDocuments vs) := by
  cases vs with
  | nil => trivial
  | cons v vs => exact ⟨closed_document v, closedItems_documents vs⟩

theorem closedMembers_documents (ms : List (String × Json)) : Document.ClosedMembers (memberDocuments ms) := by
  cases ms with
  | nil => trivial
  | cons m ms => exact ⟨closed_document m.2, closedMembers_documents ms⟩

end

mutual

/-- A value and its document have the same tokens. -/
theorem tokens_document (v : Json) (ts : List Token) : v.document.tokens ts = tokens v ts := by
  cases v with
  | bool b => cases b <;> rfl
  | array items =>
    cases items with
    | nil => rfl
    | cons v vs =>
      have hvs := itemTokens_documents vs (.closeBracket :: ts)
      exact congrArg (.openBracket :: ·) ((congrArg _ hvs).trans (tokens_document v _))
  | object members =>
    cases members with
    | nil => rfl
    | cons m ms =>
      have hms := memberTokens_documents ms (.closeBrace :: ts)
      exact congrArg (.openBrace :: .string (.ofString m.1) :: .colon :: ·)
        ((congrArg _ hms).trans (tokens_document m.2 _))
  | _ => rfl

theorem itemTokens_documents (vs : List Json) (ts : List Token) :
    Document.itemTokens (itemDocuments vs) ts = itemTokens vs ts := by
  cases vs with
  | nil => rfl
  | cons v vs =>
    have hvs := itemTokens_documents vs ts
    exact congrArg (.comma :: ·) ((congrArg _ hvs).trans (tokens_document v _))

theorem memberTokens_documents (ms : List (String × Json)) (ts : List Token) :
    Document.memberTokens (memberDocuments ms) ts = memberTokens ms ts := by
  cases ms with
  | nil => rfl
  | cons m ms =>
    have hms := memberTokens_documents ms ts
    exact congrArg (.comma :: .string (.ofString m.1) :: .colon :: ·)
      ((congrArg _ hms).trans (tokens_document m.2 _))

end

/-- A text that is split into the tokens of a value holds the document of that value. -/
theorem document_of_scans {v : Json} {s : List Char} (h : Token.Scans s (tokens v [])) :
    Document.ofText (String.ofList s) = ⟨v.document, false⟩ := by
  rw [← tokens_document] at h
  exact Document.ofText_of_scans (closed_document v) h

/-- The compact text of a value holds its document. -/
theorem document_compact {v : Json} (hv : Exact v) :
    Document.ofText v.compact = ⟨v.document, false⟩ :=
  document_of_scans (scans_compact hv trivial Token.scans_nil)

/-- The laid out text of a value holds its document. -/
theorem document_laidOut {v : Json} (hv : Exact v) :
    Document.ofText v.laidOut = ⟨v.document, false⟩ :=
  document_of_scans (scans_laidOut 0 hv trivial Token.scans_nil)

theorem insert_last {name : String} {done : List (String × Json)} (h : ∀ m ∈ done, m.1 < name)
    (v : Json) : insert name v done = done ++ [(name, v)] := by
  induction done with
  | nil => rfl
  | cons m done ih =>
    obtain ⟨other, old⟩ := m
    have hlt : other < name := h _ List.mem_cons_self
    have hne : name ≠ other := by
      rintro rfl
      exact String.lt_irrefl _ hlt
    have hrest := ih fun m hm => h m (List.mem_cons_of_mem _ hm)
    simp [insert, String.lt_asymm hlt, hne, hrest]

theorem foldl_insert (done members : List (String × Json))
    (h : (done ++ members).Pairwise fun m n => m.1 < n.1) :
    members.foldl (fun done m => insert m.1 m.2 done) done = done ++ members := by
  induction members generalizing done with
  | nil => rw [List.foldl_nil, List.append_nil]
  | cons m members ih =>
    have hlast : ∀ n ∈ done, n.1 < m.1 := fun n hn =>
      (List.pairwise_append.mp h).2.2 n hn m List.mem_cons_self
    rw [List.append_cons] at h ⊢
    rw [List.foldl_cons, insert_last hlast]
    exact ih _ h

/-- Members in the order of their names make an object as they are. -/
theorem ofMembers_of_pairwise {members : List (String × Json)}
    (h : (members.map Prod.fst).Pairwise (· < ·)) : ofMembers members = .object members := by
  rw [ofMembers, foldl_insert [] members (List.pairwise_map.mp h), List.nil_append]

mutual

/-- The plain value of the document of a value is that value. -/
theorem value_document {v : Json} {depth : Nat} (hv : Kept depth v) :
    Document.value depth v.document = .ok v := by
  cases v with
  | bool b => cases b <;> rfl
  | array items =>
    obtain ⟨below, rfl, hitems⟩ := Kept.of_array hv
    have hvalues := valueItems_documents hitems
    simp [document, Document.value, hvalues, Document.listEnd]
  | object members =>
    obtain ⟨below, rfl, hsorted, hmembers⟩ := Kept.of_object hv
    have hvalues := valueMembers_documents hmembers
    simp [document, Document.value, hvalues, Document.objectEnd, ofMembers_of_pairwise hsorted]
  | _ => rfl

theorem valueItems_documents {vs : List Json} {depth : Nat} (hvs : KeptItems depth vs) :
    Document.valueItems depth (itemDocuments vs) = .ok vs := by
  cases vs with
  | nil => rfl
  | cons v vs =>
    have hv := value_document hvs.1
    have hrest := valueItems_documents hvs.2
    simp [itemDocuments, Document.valueItems, hv, hrest]

theorem valueMembers_documents {ms : List (String × Json)} {depth : Nat} (hms : KeptMembers depth ms) :
    Document.valueMembers depth (memberDocuments ms) = .ok ms := by
  cases ms with
  | nil => rfl
  | cons m ms =>
    obtain ⟨name, v⟩ := m
    have hv := value_document hms.1
    have hrest := valueMembers_documents hms.2
    simp [memberDocuments, Document.valueMembers, Lexeme.ofString, hv, hrest]

end

theorem ofText_of_document {v : Json} {s : String} (hv : Kept Document.maxDepth v)
    (h : Document.ofText s = ⟨v.document, false⟩) : ofText s = .ok v := by
  simp [ofText, h, Document.Root.readWith, value_document hv]

/-- A value is read back from its compact text. -/
theorem ofText_compact {v : Json} (hv : Kept Document.maxDepth v) : ofText v.compact = .ok v :=
  ofText_of_document hv (document_compact hv.exact)

/-- A value is read back from its text laid out on lines. -/
theorem ofText_laidOut {v : Json} (hv : Kept Document.maxDepth v) : ofText v.laidOut = .ok v :=
  ofText_of_document hv (document_laidOut hv.exact)

end Chip8.Json
