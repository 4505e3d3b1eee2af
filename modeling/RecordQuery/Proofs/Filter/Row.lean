import RecordQuery.Proofs.Filter.Walk

/-!
# Rows of terms between single quotes

A row joins terms by `and`, each with its text between single quotes. It is read term by term if
and only if every text in it stays whole (`ofParts_row_iff`), also where it is percent-encoded
(`percentEncode_row`) and whether or not quotes count in it (`ofParts_ofText_row_iff`).
-/

namespace RecordQuery.Filter

open Text

variable {quotes : Bool} {before : Option Char} {s t : List Char}

/-! ## Terms with a text between single quotes -/

theorem isGap_space : IsGap [' '] := by decide

/-- A term with a property, a word of an operator that takes a value, and a text between single
quotes. -/
structure TextTerm where
  /-- The property. -/
  property : String
  /-- The word that names the operator. -/
  word : String
  /-- The operator. -/
  operator : Operator
  /-- The text. -/
  text : List Char
  isProperty : IsProperty property.toList
  names : Names word.toList operator
  takes_value : operator.isNullCheck = false

namespace TextTerm

/-- What stands in front of the text and its quotes. -/
def lead (g : TextTerm) : List Char := g.property.toList ++ (' ' :: g.word.toList ++ [' '])

/-- The characters of the term. -/
def chars (g : TextTerm) : List Char := g.lead ++ singleQuote :: (g.text ++ [singleQuote])

/-- The criterion that the term stands for. -/
def criterion (g : TextTerm) (k : Connective) : Criterion :=
  ⟨g.property, g.operator, .text (String.ofList g.text), k⟩

/-- The lead of a term and the opening quote belong to the term. -/
theorem from?_lead (g : TextTerm) (u : List Char) :
    Mark.from? quotes ⟨before, none, 0⟩ (g.lead ++ singleQuote :: u) =
      (Mark.from? quotes (.behindQuote quotes) u).map (letters (g.lead ++ [singleQuote]) ++ ·) := by
  have hproperty (v : List Char) (hv : isEdge v.head? = true) :
      Mark.from? quotes ⟨before, none, 0⟩ (g.property.toList ++ v) = _ :=
    from?_word g.isProperty.ne_nil
      (fun c hc => ⟨isBlank_of_isWord (g.isProperty.isWord c hc),
        isQuote_of_isWord (g.isProperty.isWord c hc)⟩)
      g.isProperty.no_connective hv
  have hword (b : Option Char) (v : List Char) (hv : isEdge v.head? = true) :
      Mark.from? quotes ⟨b, none, 0⟩ (g.word.toList ++ v) = _ :=
    from?_word g.names.ne_nil
      (fun c hc => ⟨g.names.isBlank c hc, isQuote_of_isLower_toLower (g.names.isLower c hc)⟩)
      g.names.no_connective hv
  have hquote : Mark.from? quotes ⟨some ' ', none, 0⟩ (singleQuote :: u) =
      (Mark.from? quotes (.behindQuote quotes) u).map (.letter singleQuote :: ·) := by
    cases quotes with
    | true => rw [Mark.from?, if_pos ⟨rfl, rfl, by decide⟩]; rfl
    | false => rw [from?_letter (by simp) (connectiveAt?_cons (by decide) _ _)]; rfl
  have hsplit : g.lead ++ singleQuote :: u =
      g.property.toList ++ ([' '] ++ (g.word.toList ++ ([' '] ++ singleQuote :: u))) := by
    simp [lead]
  rw [hsplit, hproperty _ rfl, from?_gap isGap_space, hword _ _ rfl, from?_gap isGap_space,
    List.getLast?_singleton, hquote]
  simp [Function.comp_def, lead]

/-- Whatever stands behind its opening quote, a term names its property and its operator. -/
theorem criterion?_lead (g : TextTerm) {z : List Char} (hz : ∀ c ∈ z.getLast?, isBlank c = false) :
    criterion? (g.lead ++ singleQuote :: z) =
      some ⟨g.property, g.operator, operand (singleQuote :: z), .none⟩ := by
  have hsplit : g.lead ++ singleQuote :: z =
      g.property.toList ++ ([' '] ++ (g.word.toList ++ ([' '] ++ singleQuote :: z))) := by
    simp [lead]
  have hword : ∀ c ∈ (g.word.toList ++ ([' '] ++ singleQuote :: z)).head?, isBlank c = false := by
    obtain ⟨b, w, hw⟩ := List.exists_cons_of_ne_nil g.names.ne_nil
    rw [hw]
    simpa using g.names.isBlank b (by simp [hw])
  have htrim : trim (g.lead ++ singleQuote :: z) = g.lead ++ singleQuote :: z := by
    refine trimBy_eq_self ?_ fun c hc => ?_
    · obtain ⟨a, p, hp⟩ := List.exists_cons_of_ne_nil g.isProperty.ne_nil
      rw [hsplit, hp]
      simpa using isBlank_of_isWord (g.isProperty.isWord a (by simp [hp]))
    · rw [List.getLast?_append, List.getLast?_cons] at hc
      cases hlast : z.getLast? with
      | none => simp [hlast] at hc; subst hc; decide
      | some d => simp [hlast] at hc; subst hc; exact hz _ hlast
  have htake := takeRun?_append (p := isWord)
    (t := [' '] ++ (g.word.toList ++ ([' '] ++ singleQuote :: z)))
    g.isProperty.ne_nil g.isProperty.isWord (by simp; decide)
  have htake' := takeRun?_append (p := fun c => !isBlank c) (t := [' '] ++ singleQuote :: z)
    g.names.ne_nil (fun c hc => by simp [g.names.isBlank c hc]) (by simp; decide)
  have hgap := isGap_space.takeRun? hword
  have hgap' := isGap_space.takeRun? (t := singleQuote :: z) (by simp; decide)
  rw [criterion?, htrim, hsplit, htake]
  simp only [Option.bind_eq_bind, Option.bind_some, hgap, operation?, htake', g.names.ofToken?,
    g.takes_value, hgap']
  simp

/-- The term up to the first connective gives a criterion with what is read behind its quote. -/
theorem ofParts_lead (g : TextTerm) (z : List Char) (first : Bool) (joint : Connective)
    (parts : List Part) :
    ofParts first joint (Part.consTerm (g.lead ++ singleQuote :: z) parts) =
      cons ⟨g.property, g.operator, .text (String.ofList (readBehindQuote z)),
        if first then .none else joint⟩ (ofParts false .and parts) := by
  let s := singleQuote :: trimEndBy isBlank z
  have hlast : ∀ c ∈ (trimEndBy isBlank z).getLast?, isBlank c = false := getLast?_trimEndBy
  have htrim : trim (g.lead ++ singleQuote :: z) = g.lead ++ s := by
    obtain ⟨a, p, hp⟩ := List.exists_cons_of_ne_nil g.isProperty.ne_nil
    have hblank := isBlank_of_isWord (g.isProperty.isWord a (by simp [hp]))
    rw [trim, trimBy, dropWhile_eq_self (by simpa [lead, hp] using hblank),
      trimEndBy_append_cons (by decide)]
  have htrim' : trim s = s := by
    refine trimBy_eq_self (by simp [s]; decide) fun c hc => ?_
    rw [List.getLast?_cons] at hc
    cases hz : (trimEndBy isBlank z).getLast? with
    | none => simp [hz] at hc; subst hc; decide
    | some d => simp [hz] at hc; subst hc; exact hlast _ hz
  have hoperand : operand s = .text (String.ofList (readBehindQuote z)) := by
    have hparen : isParenthesized s = false := by simp [s, isParenthesized, singleQuote]
    simp [operand, htrim', hparen, readBehindQuote, s]
  have hne : (g.lead ++ s).isEmpty = false := by simp [s]
  simp only [Part.consTerm, htrim, hne, Bool.false_eq_true, if_false]
  rw [ofParts, criterion?_lead g hlast, hoperand]

end TextTerm

/-! ## A row of terms -/

/-- The walk through a text leaves it whole if its marks are the characters and no quote is open. -/
theorem WalksText.staysWhole_iff {marks : List Mark} {quote : Option Char}
    (h : WalksText quotes (.behindQuote quotes) s marks quote) :
    StaysWhole quotes s ↔ marks = letters (s ++ [singleQuote]) ∧ quote = none := by
  rw [StaysWhole, h.walk [] rfl, Mark.from?]
  cases quote <;> simp

/-- The walk through a term is that through its text, behind the characters of the lead. -/
theorem TextTerm.from?_chars (g : TextTerm) {marks : List Mark} {quote : Option Char}
    (h : WalksText quotes (.behindQuote quotes) g.text marks quote)
    (ht : isEdge t.head? = true) :
    Mark.from? quotes ⟨before, none, 0⟩ (g.chars ++ t) =
      (Mark.from? quotes ⟨some singleQuote, quote, 0⟩ t).map
        (letters (g.lead ++ [singleQuote]) ++ marks ++ ·) := by
  rw [chars, List.append_assoc, List.cons_append, List.append_assoc, List.singleton_append,
    g.from?_lead, h.walk t ht, Option.map_map]
  simp [Function.comp_def]

/-- Inside a quote, characters other than the quote leave it open. -/
theorem from?_openQuote {q : Char} {w : List Char} (hw : q ∉ w) :
    Mark.from? quotes ⟨before, some q, 0⟩ (w ++ t) =
      (Mark.from? quotes ⟨w.getLast?.or before, some q, 0⟩ t).map (letters w ++ ·) := by
  induction w generalizing before with
  | nil => simp
  | cons c w ih =>
    have hc : c ≠ q := by rintro rfl; simp at hw
    rw [List.cons_append, Mark.from?, if_neg (by simp [hc]), ih (by simp_all), Option.map_map]
    simp [Function.comp_def, List.getLast?_cons]

/-- The terms, each behind an `and`. -/
def rowRest (gs : List TextTerm) : List Char := gs.flatMap fun g => " and ".toList ++ g.chars

/-- A row of terms with `and` between them. -/
def row (gs : List TextTerm) : List Char :=
  ((gs.map TextTerm.chars).intersperse " and ".toList).flatten

theorem row_cons (g : TextTerm) (gs : List TextTerm) : row (g :: gs) = g.chars ++ rowRest gs := by
  induction gs generalizing g with
  | nil => simp [row, rowRest]
  | cons h gs ih =>
    have := ih h
    simp only [row, List.map_cons] at this ⊢
    rw [List.intersperse_cons_cons, List.flatten_cons, List.flatten_cons, this]
    simp [rowRest]

theorem rowRest_cons (h : TextTerm) (gs : List TextTerm) :
    rowRest (h :: gs) = [' '] ++ ("and".toList ++ ([' '] ++ row (h :: gs))) := by
  simp [rowRest, row_cons]

theorem isEdge_rowRest (gs : List TextTerm) : isEdge (rowRest gs).head? = true := by
  cases gs <;> simp [rowRest, isEdge]
  decide

/-- The criteria of a row of terms. -/
def rowCriteria (first : Bool) (joint : Connective) : List TextTerm → List Criterion
  | [] => []
  | g :: gs => g.criterion (if first then .none else joint) :: rowCriteria false .and gs

/-- A criterion of a row of terms is that of a term, and no `or` stands in front of it. -/
theorem mem_rowCriteria {gs : List TextTerm} {c : Criterion} {first : Bool} {joint : Connective}
    (hjoint : joint ≠ .or) (hc : c ∈ rowCriteria first joint gs) :
    c.connective ≠ .or ∧ ∃ g ∈ gs, ∃ k, c = g.criterion k := by
  induction gs generalizing first joint with
  | nil => simp [rowCriteria] at hc
  | cons g gs ih =>
    rcases List.mem_cons.1 hc with rfl | hc
    · refine ⟨?_, g, by simp, _, rfl⟩
      cases first <;> simp [TextTerm.criterion, hjoint]
    · obtain ⟨hor, g', hg', k, rfl⟩ := ih (by decide) hc
      exact ⟨hor, g', by simp [hg'], k, rfl⟩

/-- Every term of a row has its criterion. -/
theorem exists_criterion_mem {gs : List TextTerm} {g : TextTerm} (hg : g ∈ gs) (first : Bool)
    (joint : Connective) : ∃ k, g.criterion k ∈ rowCriteria first joint gs := by
  induction gs generalizing first joint with
  | nil => simp at hg
  | cons h gs ih =>
    rcases List.mem_cons.1 hg with rfl | hg
    · exact ⟨_, List.mem_cons_self ..⟩
    · obtain ⟨k, hk⟩ := ih hg false .and
      exact ⟨k, List.mem_cons_of_mem _ hk⟩

/-- Marks behind a connective do not reach the first term. -/
theorem gather_append_of_ne_nil {marks : List Mark} (h : (Part.gather marks).2 ≠ [])
    (rest : List Mark) : (Part.gather (marks ++ rest)).1 = (Part.gather marks).1 := by
  induction marks with
  | nil => simp [Part.gather] at h
  | cons m marks ih =>
    cases m with
    | letter c => rw [List.cons_append, Part.gather, Part.gather, ih h]
    | connective k => rfl

/-- A text that does not stay whole is not what is read behind its quote, whatever terms follow:
a connective in it ends the term before the text does, and a quote that is left open makes
the `and` behind it part of the term. -/
theorem readBehindQuote_ne {marks rest : List Mark} {quote : Option Char} {gs : List TextTerm}
    (h : WalksText quotes (.behindQuote quotes) s marks quote) (hs : ¬StaysWhole quotes s)
    (hrest : Mark.from? quotes ⟨some singleQuote, quote, 0⟩ (rowRest gs) = some rest) :
    readBehindQuote (Part.gather (marks ++ rest)).1 ≠ s := by
  intro heq
  obtain ⟨hge, hle⟩ := length_readBehindQuote (Part.gather (marks ++ rest)).1
  rw [heq] at hge hle
  rcases h.whole_or_cut with rfl | ⟨hlen, hne⟩
  · cases quote with
    | none => exact hs (h.staysWhole_iff.2 ⟨rfl, rfl⟩)
    | some q =>
      cases gs with
      | nil =>
        -- a quote that is left open to the end gives no marks
        simp [rowRest, Mark.from?] at hrest
      | cons g gs =>
        have hand : q ∉ " and".toList := by
          rcases isQuote_cases (h.isQuote q rfl) with rfl | rfl <;> decide
        have hsplit : rowRest (g :: gs) = " and".toList ++ (' ' :: (g.chars ++ rowRest gs)) := by
          simp [rowRest]
        rw [hsplit, from?_openQuote hand] at hrest
        obtain ⟨rest, -, rfl⟩ := Option.map_eq_some_iff.1 hrest
        have htrim : trimEndBy isBlank (Part.gather (letters (s ++ [singleQuote]) ++
            (letters " and".toList ++ rest))).1 =
              s ++ singleQuote :: " an".toList ++
                'd' :: trimEndBy isBlank (Part.gather rest).1 := by
          rw [gather_letters_append, gather_letters_append, ← trimEndBy_append_cons (by decide)]
          simp
        rw [htrim] at hge
        simp at hge
  · rw [gather_append_of_ne_nil hne] at hge hle
    have := length_trimEndBy_le (p := isBlank) (s := (Part.gather marks).1)
    omega

/-- Filters with a criterion in front are equal if their parts are. -/
theorem cons_eq_iff {c d : Criterion} {f : Filter} {cs : List Criterion} {dropped : List String} :
    cons c f = ⟨d :: cs, dropped⟩ ↔ c = d ∧ f = ⟨cs, dropped⟩ := by
  cases f
  simp [cons, and_assoc]

/-- The marks of the terms behind a first one begin with blanks, and then with their own `and`. -/
theorem marks_rowRest {gs : List TextTerm} {rest : List Mark}
    (hrest : Mark.from? quotes ⟨some singleQuote, none, 0⟩ (rowRest gs) = some rest) :
    (∀ c ∈ (Part.gather rest).1, isBlank c = true) ∧
      match gs with
      | [] => (Part.gather rest).2 = []
      | h :: gs => ∃ marks, Mark.from? quotes ⟨some ' ', none, 0⟩ (row (h :: gs)) = some marks ∧
        (Part.gather rest).2 = .connective .and :: Part.ofMarks marks := by
  cases gs with
  | nil =>
    cases hrest
    exact ⟨by simp [Part.gather], rfl⟩
  | cons h gs =>
    rw [rowRest_cons, from?_gap isGap_space, from?_connective (k := .and) rfl rfl rfl,
      from?_gap isGap_space, Option.map_map, Option.map_map] at hrest
    obtain ⟨marks, hmarks, rfl⟩ := Option.map_eq_some_iff.1 hrest
    refine ⟨by simp [Part.gather]; decide, marks, hmarks, ?_⟩
    simp [Part.gather, Part.ofMarks, Part.consTerm, trim_cons_of_isBlank (c := ' ') (by decide)]

/-- The first term of a row gives a criterion with what is read behind its quote, and the other
terms give what the marks behind it do. -/
theorem ofParts_row_cons (g : TextTerm) (gs : List TextTerm) {marks : List Mark}
    (hmarks : Mark.from? quotes ⟨before, none, 0⟩ (row (g :: gs)) = some marks) :
    ∃ ms quote rest, WalksText quotes (.behindQuote quotes) g.text ms quote ∧
      Mark.from? quotes ⟨some singleQuote, quote, 0⟩ (rowRest gs) = some rest ∧
      ∀ first joint, ofParts first joint (Part.ofMarks marks) =
        cons ⟨g.property, g.operator,
            .text (String.ofList (readBehindQuote (Part.gather (ms ++ rest)).1)),
            if first then .none else joint⟩
          (ofParts false .and (Part.gather (ms ++ rest)).2) := by
  obtain ⟨ms, quote, h⟩ := exists_walksText quotes g.text (some singleQuote)
    (if quotes then some singleQuote else none)
    (by cases quotes <;> simp [show isQuote singleQuote = true from rfl])
  rw [row_cons, g.from?_chars h (isEdge_rowRest gs)] at hmarks
  obtain ⟨rest, hrest, rfl⟩ := Option.map_eq_some_iff.1 hmarks
  refine ⟨ms, quote, rest, h, hrest, fun first joint => ?_⟩
  have hparts : Part.ofMarks (letters (g.lead ++ [singleQuote]) ++ ms ++ rest) =
      Part.consTerm (g.lead ++ singleQuote :: (Part.gather (ms ++ rest)).1)
        (Part.gather (ms ++ rest)).2 := by
    rw [Part.ofMarks, List.append_assoc, gather_letters_append]
    simp
  rw [hparts, g.ofParts_lead]

/-- A row of terms is read term by term, with nothing dropped, if and only if every text in it stays
whole. -/
theorem ofParts_row_iff {before : Option Char} (g : TextTerm) (gs : List TextTerm) (first : Bool)
    (joint : Connective) {marks : List Mark}
    (hmarks : Mark.from? quotes ⟨before, none, 0⟩ (row (g :: gs)) = some marks) :
    ofParts first joint (Part.ofMarks marks) = ⟨rowCriteria first joint (g :: gs), []⟩ ↔
      ∀ h ∈ g :: gs, StaysWhole quotes h.text := by
  obtain ⟨ms, quote, rest, h, hrest, hparts⟩ := ofParts_row_cons g gs hmarks
  rw [hparts, rowCriteria, cons_eq_iff, List.forall_mem_cons]
  by_cases hwhole : StaysWhole quotes g.text
  · -- behind the first term the walk starts anew, with the row of the other terms
    obtain ⟨rfl, rfl⟩ := h.staysWhole_iff.1 hwhole
    obtain ⟨hblank, hnext⟩ := marks_rowRest hrest
    have htail : ofParts false .and (Part.gather rest).2 = ⟨rowCriteria false .and gs, []⟩ ↔
        ∀ h ∈ gs, StaysWhole quotes h.text := by
      cases gs with
      | nil => simp [hnext, ofParts, empty, rowCriteria]
      | cons h gs =>
        obtain ⟨marks, hm, heq⟩ := hnext
        rw [heq, ofParts]
        exact ofParts_row_iff h gs false .and hm
    simp only [gather_letters_append, List.append_assoc, List.singleton_append,
      readBehindQuote_closed g.text hblank, htail]
    simp [hwhole, TextTerm.criterion]
  · have hread := readBehindQuote_ne h hwhole hrest
    simp [hwhole, TextTerm.criterion, String.ofList_inj, hread]
termination_by gs.length

/-! ## The text of a row -/

/-- Quotes count in a text: none is left open in it. -/
def quotesCount (s : List Char) : Bool := (Mark.ofText? true s).isSome

/-- The text of a row of terms is read term by term, with nothing dropped, if and only if every text
in it stays whole. -/
theorem ofParts_ofText_row_iff (g : TextTerm) (gs : List TextTerm) :
    ofParts true .and (Part.ofText true (row (g :: gs))) =
        ⟨rowCriteria true .and (g :: gs), []⟩ ↔
      ∀ h ∈ g :: gs, StaysWhole (quotesCount (row (g :: gs))) h.text := by
  cases hquotes : Mark.ofText? true (row (g :: gs)) with
  | some marks =>
    rw [Part.ofText, quotesCount, hquotes, Option.some_or, Option.getD_some,
      ofParts_row_iff g gs true .and hquotes]
    rfl
  | none =>
    obtain ⟨marks, hmarks⟩ := Option.isSome_iff_exists.1 (isSome_from?_false (row (g :: gs)) none 0)
    rw [Part.ofText, quotesCount, hquotes, Option.none_or, Mark.ofText?, Position.front, hmarks,
      Option.getD_some, ofParts_row_iff g gs true .and hmarks]
    rfl

/-- Quotes count in the text of a row whose texts all stay whole. -/
theorem quotesCount_row {gs : List TextTerm} (h : ∀ g ∈ gs, StaysWhole true g.text) :
    quotesCount (row gs) = true := by
  suffices hrest : ∀ before, (Mark.from? true ⟨before, none, 0⟩ (row gs)).isSome = true from
    hrest none
  induction gs with
  | nil => exact fun _ => rfl
  | cons g gs ih =>
    intro before
    obtain ⟨ms, quote, hwalk⟩ := exists_walksText true g.text (some singleQuote)
      (some singleQuote) (by simp [show isQuote singleQuote = true from rfl])
    obtain ⟨rfl, rfl⟩ := hwalk.staysWhole_iff.1 (h g (by simp))
    rw [row_cons, g.from?_chars hwalk (isEdge_rowRest gs), Option.isSome_map]
    cases gs with
    | nil => rfl
    | cons h gs =>
      rw [rowRest_cons, from?_gap isGap_space, from?_connective (k := .and) rfl rfl rfl,
        from?_gap isGap_space]
      simpa using ih (fun g hg => h g (by simp [hg])) _

/-! ## Encoding a row -/

/-- The lead of a term is its own encoding. -/
theorem TextTerm.percentEncode_lead (g : TextTerm) : percentEncode g.lead = g.lead := by
  refine percentEncode_eq_self fun c hc => ?_
  have hpercent : isWord '%' = false ∧ '%'.toLower.isLower = false := by decide
  have hplus : isWord '+' = false ∧ '+'.toLower.isLower = false := by decide
  have hne (h : isWord c = true ∨ c.toLower.isLower = true) : c ≠ '%' ∧ c ≠ '+' := by
    constructor
    · rintro rfl
      simp [hpercent] at h
    · rintro rfl
      simp [hplus] at h
  simp only [lead, List.mem_append, List.mem_cons, List.not_mem_nil, or_false] at hc
  rcases hc with hc | (rfl | hc) | rfl
  · exact hne (.inl (g.isProperty.isWord c hc))
  · decide
  · exact hne (.inr (g.names.isLower c hc))
  · decide

/-- Encoding a term leaves all but its text as it is. -/
theorem TextTerm.percentEncode_chars (g : TextTerm) :
    percentEncode g.chars = g.lead ++ singleQuote :: (percentEncode g.text ++ [singleQuote]) := by
  have hquote : percentEncode [singleQuote] = [singleQuote] := by decide
  rw [chars, percentEncode_append, ← List.singleton_append, percentEncode_append,
    percentEncode_append, percentEncode_lead, hquote]
  rfl

/-- The encoded terms, joined, are the encoding of the row. -/
theorem percentEncode_row (gs : List TextTerm) :
    ((gs.map fun g => percentEncode g.chars).intersperse " and ".toList).flatten =
      percentEncode (row gs) := by
  have hand : percentEncode " and ".toList = " and ".toList := by decide
  induction gs with
  | nil => rfl
  | cons g gs ih =>
    cases gs with
    | nil => simp [row]
    | cons h gs =>
      simp only [row, List.map_cons] at ih ⊢
      rw [List.intersperse_cons_cons, List.intersperse_cons_cons, List.flatten_cons,
        List.flatten_cons, List.flatten_cons, List.flatten_cons, ih, percentEncode_append,
        percentEncode_append, hand]

end RecordQuery.Filter
