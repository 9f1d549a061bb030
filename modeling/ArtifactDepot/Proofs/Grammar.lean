import ArtifactDepot.Json.Reader

/-!
# The grammar of documents

What a row of tokens spells is said by `Spells`, without a reader, and with
the number of containers that lie inside each other.  The pushdown reader
accepts exactly the rows that spell a value with no more containers than it
can keep open, and yields that value (`parse_ok_iff`).  `Before` says which
rows can be continued by a value, and so where the reader stops for a token
that it refuses although the grammar allows it (`parse_stops_iff`).
-/

namespace ArtifactDepot.Json

/-- What a row of tokens can spell. -/
inductive Phrase where
  | value (value : Json)
  /-- The items of a list, at least one. -/
  | items (items : List Json)
  /-- The members of a record, at least one. -/
  | members (members : List (Text × Json))

/-- A row of tokens spells a phrase with no more containers inside each other than `depth`. -/
inductive Spells : Nat → List Token → Phrase → Prop where
  | atom {depth : Nat} (value : Json) : Spells depth [.atom value] (.value value)
  | text {depth : Nat} (text : Text) : Spells depth [.text text] (.value (.text text))
  | noItems {depth : Nat} : Spells (depth + 1) [.openList, .closeList] (.value (.list []))
  | noMembers {depth : Nat} : Spells (depth + 1) [.openRecord, .closeRecord] (.value (.record []))
  | list {depth : Nat} {row : List Token} {items : List Json}
      (h : Spells depth row (.items items)) :
      Spells (depth + 1) (.openList :: (row ++ [.closeList])) (.value (.list items))
  | record {depth : Nat} {row : List Token} {members : List (Text × Json)}
      (h : Spells depth row (.members members)) :
      Spells (depth + 1) (.openRecord :: (row ++ [.closeRecord])) (.value (.record members))
  | item {depth : Nat} {row : List Token} {value : Json} (h : Spells depth row (.value value)) :
      Spells depth row (.items [value])
  | nextItem {depth : Nat} {row more : List Token} {items : List Json} {value : Json}
      (h : Spells depth row (.items items)) (hvalue : Spells depth more (.value value)) :
      Spells depth (row ++ .comma :: more) (.items (items ++ [value]))
  | member {depth : Nat} {row : List Token} {value : Json} (name : Text)
      (h : Spells depth row (.value value)) :
      Spells depth (.text name :: .colon :: row) (.members [(name, value)])
  /-- A name that was there keeps its place and gets the new value. -/
  | nextMember {depth : Nat} {row more : List Token} {members : List (Text × Json)} {value : Json}
      (name : Text) (h : Spells depth row (.members members))
      (hvalue : Spells depth more (.value value)) :
      Spells depth (row ++ .comma :: .text name :: .colon :: more)
        (.members (Entries.put name value members))

variable {nesting depth : Nat} {row more front rest : List Token} {phrase : Phrase} {value : Json}
  {items : List Json} {members : List (Text × Json)} {frames outer : List Frame}
  {expectation : Expectation} {token : Token} {flaw : Flaw}

/-! ## What is spelled is read -/

theorem readTokens_of_advance {next : Expectation} {inner : List Frame}
    (h : advance nesting expectation frames token = .ok (next, inner)) :
    readTokens nesting expectation frames (token :: rest) = readTokens nesting next inner rest := by
  simp only [readTokens, h]

/-- A reader goes on to the rest, unless `count` containers are more than it can keep open. -/
def ReadsOn (nesting count : Nat) (whole rest : Except Flaw Json) : Prop :=
  whole = rest ∨ nesting < count ∧ ∃ container, whole = .error (.nestedTooDeep container)

namespace ReadsOn

variable {count larger : Nat} {whole part last : Except Flaw Json}

theorem of_eq (h : whole = part) : ReadsOn nesting count whole part := Or.inl h

theorem trans (h : ReadsOn nesting count whole part) (h' : ReadsOn nesting count part last) :
    ReadsOn nesting count whole last := by
  rcases h with rfl | hdeep
  · exact h'
  · exact Or.inr hdeep

theorem mono (h : ReadsOn nesting count whole part) (hle : count ≤ larger) :
    ReadsOn nesting larger whole part :=
  h.imp_right fun ⟨hdeep, hstop⟩ => ⟨Nat.lt_of_lt_of_le hdeep hle, hstop⟩

theorem eq_of_room (h : ReadsOn nesting count whole part) (hroom : count ≤ nesting) :
    whole = part :=
  h.resolve_right fun hdeep => Nat.not_lt_of_le hroom hdeep.1

end ReadsOn

/-- A container is opened, if one more can be. -/
theorem readsOn_openList (frames : List Frame) (rest : List Token) :
    ReadsOn nesting (frames.length + 1) (readTokens nesting .value frames (.openList :: rest))
      (readTokens nesting .valueOrClose (.list [] :: frames) rest) := by
  by_cases hfull : nesting ≤ frames.length
  · have hstop : advance nesting .value frames .openList = .error (.nestedTooDeep .list) :=
      if_pos hfull
    exact Or.inr ⟨Nat.lt_succ_of_le hfull, .list, by simp only [readTokens, hstop]⟩
  · have hopen : advance nesting .value frames .openList =
        .ok (.valueOrClose, .list [] :: frames) := if_neg hfull
    exact .of_eq (readTokens_of_advance hopen)

theorem readsOn_openRecord (frames : List Frame) (rest : List Token) :
    ReadsOn nesting (frames.length + 1) (readTokens nesting .value frames (.openRecord :: rest))
      (readTokens nesting .nameOrClose (.record [] [] :: frames) rest) := by
  by_cases hfull : nesting ≤ frames.length
  · have hstop : advance nesting .value frames .openRecord = .error (.nestedTooDeep .record) :=
      if_pos hfull
    exact Or.inr ⟨Nat.lt_succ_of_le hfull, .record, by simp only [readTokens, hstop]⟩
  · have hopen : advance nesting .value frames .openRecord =
        .ok (.nameOrClose, .record [] [] :: frames) := if_neg hfull
    exact .of_eq (readTokens_of_advance hopen)

/-- Where a value or the end of the list may come, every value is read as if it had to come. -/
theorem readTokens_valueOrClose (h : token ≠ .closeList) (frames : List Frame)
    (rest : List Token) :
    readTokens nesting .valueOrClose frames (token :: rest) =
      readTokens nesting .value frames (token :: rest) := by
  have hsame :
      advance nesting .valueOrClose frames token = advance nesting .value frames token := by
    cases token with
    | closeList => exact absurd rfl h
    | _ => cases frames <;> rfl
  simp only [readTokens, hsame]

/-- What a reader makes of a row that spells a phrase, whatever comes before and after it. -/
def Phrase.IsRead (nesting depth : Nat) (row : List Token) : Phrase → Prop
  | .value value => ∀ (frames : List Frame) (rest : List Token),
      ReadsOn nesting (frames.length + depth) (readTokens nesting .value frames (row ++ rest))
        (readTokens nesting (settle value frames).1 (settle value frames).2 rest)
  | .items items => ∀ (outer : List Frame) (rest : List Token),
      ReadsOn nesting (outer.length + 1 + depth)
        (readTokens nesting .valueOrClose (.list [] :: outer) (row ++ rest))
        (readTokens nesting .more (.list items.reverse :: outer) rest)
  | .members members => ∀ (outer : List Frame) (rest : List Token), ∃ name,
      ReadsOn nesting (outer.length + 1 + depth)
        (readTokens nesting .nameOrClose (.record [] [] :: outer) (row ++ rest))
        (readTokens nesting .more (.record members name :: outer) rest)

/-- A value does not begin with the end of a list. -/
theorem Spells.head (h : Spells depth row (.value value)) :
    ∃ token others, row = token :: others ∧ token ≠ .closeList := by
  cases h <;> exact ⟨_, _, rfl, nofun⟩

/-- A phrase is read as it is spelled, unless its containers are too many to be kept open. -/
theorem Spells.isRead (h : Spells depth row phrase) : phrase.IsRead nesting depth row := by
  induction h with
  | atom value => exact fun frames rest => .of_eq (readTokens_of_advance rfl)
  | text text => exact fun frames rest => .of_eq (readTokens_of_advance rfl)
  | noItems =>
      intro frames rest
      exact ((readsOn_openList frames _).mono (by omega)).trans
        (.of_eq (readTokens_of_advance rfl))
  | noMembers =>
      intro frames rest
      exact ((readsOn_openRecord frames _).mono (by omega)).trans
        (.of_eq (readTokens_of_advance rfl))
  | @list depth row items h ih =>
      intro frames rest
      have hclose : advance nesting .more (.list items.reverse :: frames) .closeList =
          .ok (settle (.list items) frames) := by
        rw [advance, List.reverse_reverse]
      rw [List.cons_append, List.append_assoc]
      exact ((readsOn_openList frames _).mono (by omega)).trans
        (((ih frames _).mono (by omega)).trans (.of_eq (readTokens_of_advance hclose)))
  | @record depth row members h ih =>
      intro frames rest
      obtain ⟨name, hread⟩ := ih frames (.closeRecord :: rest)
      rw [List.cons_append, List.append_assoc]
      exact ((readsOn_openRecord frames _).mono (by omega)).trans
        ((hread.mono (by omega)).trans (.of_eq (readTokens_of_advance rfl)))
  | @item depth row value h ih =>
      intro outer rest
      obtain ⟨token, others, rfl, hhead⟩ := h.head
      rw [List.cons_append, readTokens_valueOrClose hhead, ← List.cons_append]
      exact ih (.list [] :: outer) rest
  | @nextItem depth row more items value h hvalue ih ihvalue =>
      intro outer rest
      have hnext :
          readTokens nesting .more (.list items.reverse :: outer) (.comma :: (more ++ rest)) =
            readTokens nesting .value (.list items.reverse :: outer) (more ++ rest) :=
        readTokens_of_advance rfl
      rw [List.append_assoc, List.reverse_append]
      exact (ih outer _).trans
        ((ReadsOn.of_eq hnext).trans (ihvalue (.list items.reverse :: outer) rest))
  | @member depth row value name h ih =>
      intro outer rest
      have hname : readTokens nesting .nameOrClose (.record [] [] :: outer)
          (.text name :: .colon :: (row ++ rest)) =
            readTokens nesting .value (.record [] name :: outer) (row ++ rest) :=
        (readTokens_of_advance rfl).trans (readTokens_of_advance rfl)
      exact ⟨name, (ReadsOn.of_eq hname).trans (ih (.record [] name :: outer) rest)⟩
  | @nextMember depth row more members value name h hvalue ih ihvalue =>
      intro outer rest
      obtain ⟨last, hread⟩ := ih outer (.comma :: .text name :: .colon :: (more ++ rest))
      have hname : readTokens nesting .more (.record members last :: outer)
          (.comma :: .text name :: .colon :: (more ++ rest)) =
            readTokens nesting .value (.record members name :: outer) (more ++ rest) :=
        (readTokens_of_advance rfl).trans
          ((readTokens_of_advance rfl).trans (readTokens_of_advance rfl))
      refine ⟨name, ?_⟩
      rw [List.append_assoc]
      exact hread.trans
        ((ReadsOn.of_eq hname).trans (ihvalue (.record members name :: outer) rest))

/-! ## Rows that a value can continue -/

/-- The entries of a container that has not come to its end: none, or some and a comma. -/
inductive Started (depth : Nat) : List Token → Phrase → Prop where
  | noItems : Started depth [] (.items [])
  | noMembers : Started depth [] (.members [])
  | comma {row : List Token} {phrase : Phrase} (h : Spells depth row phrase) :
      Started depth (row ++ [.comma]) phrase

/-- One more item is put behind the others. -/
theorem Started.item (h : Started depth row (.items items))
    (hvalue : Spells depth more (.value value)) :
    Spells depth (row ++ more) (.items (items ++ [value])) := by
  cases h with
  | noItems => exact hvalue.item
  | comma h =>
      rw [List.append_assoc]
      exact h.nextItem hvalue

/-- One more member is put under its name. -/
theorem Started.member (h : Started depth row (.members members)) (name : Text)
    (hvalue : Spells depth more (.value value)) :
    Spells depth (row ++ .text name :: .colon :: more)
      (.members (Entries.put name value members)) := by
  cases h with
  | noMembers => exact hvalue.member name
  | comma h =>
      rw [List.append_assoc]
      exact h.nextMember name hvalue

/-- How many containers can be opened inside of the next one. -/
def roomIn (nesting : Nat) (outer : List Frame) : Nat := nesting - (outer.length + 1)

theorem roomIn_le (h : outer.length < nesting) :
    outer.length + 1 + roomIn nesting outer ≤ nesting := by
  unfold roomIn
  omega

/-- A row that a value can continue, with the containers that are open behind it. -/
inductive Before (nesting : Nat) : List Token → List Frame → Prop where
  | top : Before nesting [] []
  | list {front row : List Token} {items : List Json} {outer : List Frame}
      (h : Before nesting front outer)
      (hroom : outer.length < nesting)
      (hitems : Started (roomIn nesting outer) row (.items items)) :
      Before nesting (front ++ .openList :: row) (.list items.reverse :: outer)
  | record {front row : List Token} {members : List (Text × Json)} {outer : List Frame}
      (name : Text) (h : Before nesting front outer) (hroom : outer.length < nesting)
      (hmembers : Started (roomIn nesting outer) row (.members members)) :
      Before nesting (front ++ .openRecord :: (row ++ [.text name, .colon]))
        (.record members name :: outer)

/-- No more containers are open than can be. -/
theorem Before.length_le (h : Before nesting front frames) : frames.length ≤ nesting := by
  cases h with
  | top => exact Nat.zero_le _
  | list h hroom _ => exact hroom
  | record name h hroom _ => exact hroom

/-- The reader expects a value behind such a row. -/
theorem Before.isRead (h : Before nesting front frames) (htoken : token ≠ .closeList)
    (rest : List Token) :
    readTokens nesting .value [] (front ++ token :: rest) =
      readTokens nesting .value frames (token :: rest) := by
  induction h generalizing token rest with
  | top => rfl
  | @list front row items outer h hroom hitems ih =>
      have hopen := ih (show Token.openList ≠ .closeList from nofun) (row ++ token :: rest)
      rw [List.append_assoc, List.cons_append, hopen, (readsOn_openList outer _).eq_of_room hroom]
      cases hitems with
      | noItems => exact readTokens_valueOrClose htoken _ _
      | comma hitems =>
          rw [List.append_assoc, (hitems.isRead outer _).eq_of_room (roomIn_le hroom)]
          exact readTokens_of_advance rfl
  | @record front row members outer name h hroom hmembers ih =>
      have hopen := ih (show Token.openRecord ≠ .closeList from nofun)
        (row ++ [.text name, .colon] ++ token :: rest)
      have hname (written : List (Text × Json)) (frames : List Frame) :
          readTokens nesting (.name written) frames (.text name :: .colon :: token :: rest) =
            readTokens nesting .value (.record written name :: frames) (token :: rest) :=
        (readTokens_of_advance rfl).trans (readTokens_of_advance rfl)
      rw [List.append_assoc, List.cons_append, hopen, (readsOn_openRecord outer _).eq_of_room hroom,
        List.append_assoc]
      cases hmembers with
      | noMembers => exact hname [] outer
      | comma hmembers =>
          obtain ⟨last, hread⟩ := hmembers.isRead outer
            (.comma :: .text name :: .colon :: token :: rest)
          rw [List.append_assoc]
          exact (hread.eq_of_room (roomIn_le hroom)).trans
            ((readTokens_of_advance rfl).trans (hname members outer))

/-! ## What is read is spelled -/

/-- What has been read when something is expected next. -/
inductive Reads (nesting : Nat) : List Token → Expectation → List Frame → Prop where
  | value {front : List Token} {frames : List Frame} (h : Before nesting front frames) :
      Reads nesting front .value frames
  | valueOrClose {front : List Token} {outer : List Frame} (h : Before nesting front outer)
      (hroom : outer.length < nesting) :
      Reads nesting (front ++ [.openList]) .valueOrClose (.list [] :: outer)
  | nameOrClose {front : List Token} {outer : List Frame} (h : Before nesting front outer)
      (hroom : outer.length < nesting) :
      Reads nesting (front ++ [.openRecord]) .nameOrClose (.record [] [] :: outer)
  | name {front row : List Token} {outer : List Frame} {members : List (Text × Json)}
      (h : Before nesting front outer) (hroom : outer.length < nesting)
      (hmembers : Started (roomIn nesting outer) row (.members members)) :
      Reads nesting (front ++ .openRecord :: row) (.name members) outer
  | colon {front row : List Token} {outer : List Frame} {members : List (Text × Json)}
      (name : Text) (h : Before nesting front outer) (hroom : outer.length < nesting)
      (hmembers : Started (roomIn nesting outer) row (.members members)) :
      Reads nesting (front ++ .openRecord :: (row ++ [.text name])) (.colon members name) outer
  | items {front row : List Token} {outer : List Frame} {items : List Json}
      (h : Before nesting front outer) (hroom : outer.length < nesting)
      (hitems : Spells (roomIn nesting outer) row (.items items)) :
      Reads nesting (front ++ .openList :: row) .more (.list items.reverse :: outer)
  | members {front row : List Token} {outer : List Frame} {members : List (Text × Json)}
      (name : Text) (h : Before nesting front outer) (hroom : outer.length < nesting)
      (hmembers : Spells (roomIn nesting outer) row (.members members)) :
      Reads nesting (front ++ .openRecord :: row) .more (.record members name :: outer)
  | finished {row : List Token} {value : Json} (h : Spells nesting row (.value value)) :
      Reads nesting row (.finished value) []

section Step

variable {next : Expectation} {inner : List Frame}

/-- A value that comes to its end is handed to the container around it. -/
theorem Before.settle (h : Before nesting front frames)
    (hvalue : Spells (nesting - frames.length) row (.value value))
    (hstep : settle value frames = (next, inner)) : Reads nesting (front ++ row) next inner := by
  cases h with
  | top =>
      cases hstep
      exact .finished hvalue
  | @list front before items outer h hroom hitems =>
      cases hstep
      have hmore := Reads.items h hroom (hitems.item hvalue)
      rw [List.reverse_append] at hmore
      rw [List.append_assoc]
      exact hmore
  | @record front before members outer name h hroom hmembers =>
      cases hstep
      have hmore := Reads.members name h hroom (hmembers.member name hvalue)
      rw [List.append_assoc, List.cons_append, List.append_assoc]
      exact hmore

/-- A container that comes to its end is a value. -/
theorem Before.settle_container (h : Before nesting front outer) (hroom : outer.length < nesting)
    (hvalue : Spells (roomIn nesting outer + 1) row (.value value))
    (hstep : Json.settle value outer = (next, inner)) :
    Reads nesting (front ++ row) next inner := by
  have hdepth : roomIn nesting outer + 1 = nesting - outer.length := by
    unfold roomIn
    omega
  exact h.settle (hdepth ▸ hvalue) hstep

/-- The step of the reader where it expects a value. -/
theorem Before.readValue (h : Before nesting front frames)
    (hstep : readValue nesting frames token = .ok (next, inner)) :
    Reads nesting (front ++ [token]) next inner := by
  cases token with
  | atom value => exact h.settle (.atom value) (Except.ok.inj hstep)
  | text text => exact h.settle (.text text) (Except.ok.inj hstep)
  | openList =>
      simp only [Json.readValue, descend] at hstep
      split at hstep
      · cases hstep
      · next hroom =>
          cases hstep
          exact .valueOrClose h (Nat.lt_of_not_le hroom)
  | openRecord =>
      simp only [Json.readValue, descend] at hstep
      split at hstep
      · cases hstep
      · next hroom =>
          cases hstep
          exact .nameOrClose h (Nat.lt_of_not_le hroom)
  | _ => cases hstep

/-- One token more is read. -/
theorem Reads.advance (h : Reads nesting front expectation frames)
    (hstep : advance nesting expectation frames token = .ok (next, inner)) :
    Reads nesting (front ++ [token]) next inner := by
  cases h with
  | value h => exact h.readValue hstep
  | @valueOrClose front outer h hroom =>
      by_cases hclose : token = .closeList
      · subst hclose
        rw [List.append_assoc]
        exact h.settle_container hroom .noItems (Except.ok.inj hstep)
      · have hvalue : Json.readValue nesting (.list [] :: outer) token = .ok (next, inner) := by
          cases token with
          | closeList => exact absurd rfl hclose
          | _ => exact hstep
        exact (Before.list h hroom .noItems).readValue hvalue
  | @nameOrClose front outer h hroom =>
      rw [List.append_assoc]
      cases token with
      | closeRecord => exact h.settle_container hroom .noMembers (Except.ok.inj hstep)
      | text name =>
          cases hstep
          exact .colon name h hroom .noMembers
      | _ => cases hstep
  | @name front row outer members h hroom hmembers =>
      cases token with
      | text name =>
          cases hstep
          rw [List.append_assoc]
          exact .colon name h hroom hmembers
      | _ => cases hstep
  | @colon front row outer members name h hroom hmembers =>
      cases token with
      | colon =>
          cases hstep
          rw [List.append_assoc, List.cons_append, List.append_assoc]
          exact .value (.record name h hroom hmembers)
      | _ => cases hstep
  | @items front row outer items h hroom hitems =>
      rw [List.append_assoc, List.cons_append]
      cases token with
      | comma =>
          cases hstep
          exact .value (.list h hroom (.comma hitems))
      | closeList =>
          have hsettle := Except.ok.inj hstep
          rw [List.reverse_reverse] at hsettle
          exact h.settle_container hroom hitems.list hsettle
      | _ => cases hstep
  | @members front row outer members name h hroom hmembers =>
      rw [List.append_assoc, List.cons_append]
      cases token with
      | comma =>
          cases hstep
          exact .name h hroom (.comma hmembers)
      | closeRecord => exact h.settle_container hroom hmembers.record (Except.ok.inj hstep)
      | _ => cases hstep
  | finished h => cases hstep

end Step

/-- A reader that comes to the end of the tokens has read what they spell. -/
theorem Reads.spells (h : Reads nesting front expectation frames)
    (hread : readTokens nesting expectation frames row = .ok value) :
    Spells nesting (front ++ row) (.value value) := by
  induction row generalizing front expectation frames with
  | nil =>
      cases h with
      | finished h =>
          cases hread
          rwa [List.append_nil]
      | _ => cases hread
  | cons token row ih =>
      rw [readTokens] at hread
      cases hstep : Json.advance nesting expectation frames token with
      | error flaw =>
          rw [hstep] at hread
          cases hread
      | ok next =>
          rw [hstep] at hread
          rw [← List.singleton_append, ← List.append_assoc]
          exact ih (h.advance hstep) hread

/-! ## Where the reader stops -/

/-- The token that opens a container. -/
def Container.opener : Container → Token
  | .list => .openList
  | .record => .openRecord

/-- A token that could begin a value, and that the reader refuses all the same. -/
inductive Refuses (nesting : Nat) (frames : List Frame) : Token → Flaw → Prop where
  | longNumber : Refuses nesting frames .longNumber .numberTooLong
  | tooDeep (container : Container) (hfull : frames.length = nesting) :
      Refuses nesting frames container.opener (.nestedTooDeep container)

theorem Refuses.ne_closeList (h : Refuses nesting frames token flaw) : token ≠ .closeList := by
  cases h with
  | longNumber => exact nofun
  | tooDeep container _ => cases container <;> exact nofun

/-- Where a value is expected, every other refusal is for a token that begins none. -/
theorem readValue_error_iff (hframes : frames.length ≤ nesting) (hflaw : flaw ≠ .malformed) :
    readValue nesting frames token = .error flaw ↔ Refuses nesting frames token flaw := by
  have hdescend (container : Container) :
      descend nesting container frames = .error flaw ↔
        frames.length = nesting ∧ flaw = .nestedTooDeep container := by
    unfold descend
    split
    · next hfull =>
        constructor
        · intro h
          cases h
          exact ⟨Nat.le_antisymm hframes hfull, rfl⟩
        · rintro ⟨-, rfl⟩
          rfl
    · next hroom =>
        constructor
        · intro h
          cases container <;> cases h
        · rintro ⟨hfull, -⟩
          exact absurd (Nat.le_of_eq hfull.symm) hroom
  constructor
  · intro h
    cases token with
    | openList =>
        obtain ⟨hfull, rfl⟩ := (hdescend .list).1 h
        exact .tooDeep .list hfull
    | openRecord =>
        obtain ⟨hfull, rfl⟩ := (hdescend .record).1 h
        exact .tooDeep .record hfull
    | longNumber =>
        cases h
        exact .longNumber
    | atom value => cases h
    | text text => cases h
    | _ =>
        cases h
        exact absurd rfl hflaw
  · intro h
    cases h with
    | longNumber => rfl
    | tooDeep container hfull =>
        have hstop := (hdescend container).2 ⟨hfull, rfl⟩
        cases container <;> exact hstop

/-- The row goes as far as the grammar allows, up to a token that is refused for another reason. -/
def Stops (nesting : Nat) (row : List Token) (flaw : Flaw) : Prop :=
  ∃ front token rest frames, row = front ++ token :: rest ∧ Before nesting front frames ∧
    Refuses nesting frames token flaw

/-- A reader that refuses a token for another reason has expected a value there. -/
theorem Reads.refuses (h : Reads nesting front expectation frames)
    (hstep : Json.advance nesting expectation frames token = .error flaw)
    (hflaw : flaw ≠ .malformed) :
    Before nesting front frames ∧ Refuses nesting frames token flaw := by
  have hvalue (hbefore : Before nesting front frames)
      (hstep : readValue nesting frames token = .error flaw) :
      Before nesting front frames ∧ Refuses nesting frames token flaw :=
    ⟨hbefore, (readValue_error_iff hbefore.length_le hflaw).1 hstep⟩
  cases h with
  | value h => exact hvalue h hstep
  | @valueOrClose front outer h hroom =>
      refine hvalue (.list h hroom .noItems) ?_
      cases token with
      | closeList => cases hstep
      | _ => exact hstep
  | _ => cases token <;> cases hstep <;> exact absurd rfl hflaw

theorem Reads.stops (h : Reads nesting front expectation frames)
    (hread : readTokens nesting expectation frames row = .error flaw) (hflaw : flaw ≠ .malformed) :
    Stops nesting (front ++ row) flaw := by
  induction row generalizing front expectation frames with
  | nil =>
      cases h with
      | finished h => cases hread
      | _ =>
          cases hread
          exact absurd rfl hflaw
  | cons token row ih =>
      rw [readTokens] at hread
      cases hstep : Json.advance nesting expectation frames token with
      | error reason =>
          rw [hstep] at hread
          cases hread
          obtain ⟨hbefore, hrefused⟩ := h.refuses hstep hflaw
          exact ⟨front, token, row, frames, rfl, hbefore, hrefused⟩
      | ok next =>
          rw [hstep] at hread
          rw [← List.singleton_append, ← List.append_assoc]
          exact ih (h.advance hstep) hread

/-! ## Documents -/

variable {input : Text}

/-- A document is read exactly if its tokens spell a value that is not nested too deep. -/
theorem parse_ok_iff :
    parse nesting input = .ok value ↔ Spells nesting (tokens input) (.value value) := by
  constructor
  · exact (Reads.value .top).spells
  · intro h
    have hread := (h.isRead [] []).eq_of_room (Nat.le_of_eq (Nat.zero_add _))
    rwa [List.append_nil] at hread

/-- Whatever is spelled by the grammar is read, or nested too deep. -/
theorem parse_of_spells (h : Spells depth (tokens input) (.value value)) :
    parse nesting input = .ok value ∨
      nesting < depth ∧ ∃ container, parse nesting input = .error (.nestedTooDeep container) := by
  have hread : ReadsOn nesting _ _ _ := h.isRead [] []
  rwa [List.append_nil, List.length_nil, Nat.zero_add] at hread

/-- The other flaws of a document are found where a token is refused that the grammar allows. -/
theorem parse_stops_iff (hflaw : flaw ≠ .malformed) :
    parse nesting input = .error flaw ↔ Stops nesting (tokens input) flaw := by
  constructor
  · exact fun h => (Reads.value .top).stops h hflaw
  · rintro ⟨front, token, rest, frames, hrow, hbefore, hrefused⟩
    have hstep : Json.advance nesting .value frames token = .error flaw :=
      (readValue_error_iff hbefore.length_le hflaw).2 hrefused
    rw [parse, hrow, hbefore.isRead hrefused.ne_closeList]
    simp only [readTokens, hstep]

end ArtifactDepot.Json
