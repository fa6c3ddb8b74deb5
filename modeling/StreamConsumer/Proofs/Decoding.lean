import StreamConsumer.Start.Decode

/-!
# Reading start modes

A start mode is read from its name, from a JSON value and from an index.  The names, the labels with the rule that
makes JSON names of them, the list of all modes and the indexes are separate descriptions of the modes; they fit
together (`StartMode.jsonName_eq`, `StartMode.getElem?_all_eq_some_iff`).  So each decoder accepts exactly what the
encoders make, and the decoders of texts agree on every text (`decoders_accept_encodings`).
-/

namespace StreamConsumer

namespace StartMode

/-! ### The descriptions fit together -/

/-- The rule for JSON names gives the names. -/
theorem jsonName_eq (m : StartMode) : m.jsonName = m.name := by
  cases m <;> rfl

theorem name_eq_name_iff (m m' : StartMode) : m.name = m'.name ↔ m = m' := by
  cases m <;> cases m' <;> decide

theorem getElem?_all_eq_some_iff (n : Nat) (m : StartMode) : all[n]? = some m ↔ n = m.index := by
  constructor
  · intro h
    have hn : n < all.length := (List.getElem?_eq_some_iff.1 h).1
    have hnodup : all.Nodup := by decide
    exact (List.getElem?_inj hn hnodup).1 (h.trans m.getElem?_all_index.symm)
  · rintro rfl
    exact m.getElem?_all_index

/-! ### Names -/

/-- A search for the one mode with a property finds it. -/
private theorem find?_all_eq_some_iff {p : StartMode → Bool} (hp : ∀ m m', p m → p m' → m = m') (m : StartMode) :
    all.find? p = some m ↔ p m := by
  constructor
  · exact List.find?_some
  · intro hm
    cases hf : all.find? p with
    | none => exact absurd hm (List.find?_eq_none.1 hf m m.mem_all)
    | some m' => rw [hp m' m (List.find?_some hf) hm]

theorem ofName?_eq_some_iff (text : String) (m : StartMode) : ofName? text = some m ↔ text = m.name := by
  have hp : ∀ m m' : StartMode, (m.name == text) = true → (m'.name == text) = true → m = m' := by
    intro m m' h h'
    rw [← name_eq_name_iff, eq_of_beq h, eq_of_beq h']
  rw [ofName?, find?_all_eq_some_iff hp, beq_iff_eq, eq_comm]

theorem ofName?_eq_none_iff (text : String) : ofName? text = none ↔ ∀ m : StartMode, text ≠ m.name := by
  rw [Option.eq_none_iff_forall_ne_some]
  exact forall_congr' fun m => not_congr (ofName?_eq_some_iff text m)

theorem parse_eq_ok_iff (text : String) (m : StartMode) : parse text = .ok m ↔ text = m.name := by
  rw [← ofName?_eq_some_iff, parse]
  cases ofName? text <;> simp

theorem parse_eq_error_iff (text : String) (e : ConfigError) :
    parse text = .error e ↔ (∀ m : StartMode, text ≠ m.name) ∧ e = .unknownStartMode text := by
  rw [← ofName?_eq_none_iff, parse]
  cases ofName? text <;> simp [eq_comm]

/-! ### JSON values -/

/-- The decoder of names in JSON looks for the same names. -/
theorem ofJsonName_eq (name : String) :
    ofJsonName name = (ofName? name).elim (.error (.unknownName name)) .ok := by
  simp only [ofJsonName, ofName?, jsonName_eq]
  cases all.find? fun m => m.name == name <;> rfl

theorem ofJsonName_eq_ok_iff (name : String) (m : StartMode) : ofJsonName name = .ok m ↔ name = m.name := by
  rw [← ofName?_eq_some_iff, ofJsonName_eq]
  cases ofName? name <;> simp

theorem ofJsonName_eq_error_iff (name : String) (e : DecodeError) :
    ofJsonName name = .error e ↔ (∀ m : StartMode, name ≠ m.name) ∧ e = .unknownName name := by
  rw [← ofName?_eq_none_iff, ofJsonName_eq]
  cases ofName? name <;> simp [eq_comm]

/-- Beside one key, the name is judged first and the value afterwards. -/
theorem ofJson_member_eq_ok_iff (name : String) (value : Json) (m : StartMode) :
    ofJson (.object [(name, value)]) = .ok m ↔ name = m.name ∧ value = .null := by
  rw [← ofJsonName_eq_ok_iff]
  cases hn : ofJsonName name with
  | error e => simp [ofJson, hn]
  | ok m' => cases value <;> simp [ofJson, hn]

theorem ofJson_eq_ok_iff (v : Json) (m : StartMode) :
    ofJson v = .ok m ↔ v = .string m.name ∨ v = .object [(m.name, .null)] := by
  cases v with
  | string name => simp [ofJson, ofJsonName_eq_ok_iff]
  | object members =>
    rcases members with _ | ⟨⟨name, value⟩, _ | ⟨second, rest⟩⟩
    · simp [ofJson]
    · rw [ofJson_member_eq_ok_iff]
      simp
    · simp [ofJson]
  | _ => simp [ofJson]

/-! ### Indexes -/

/-- Every integer but the five places is refused. -/
theorem ofIndex_eq_ok_iff (n : Int) (m : StartMode) : ofIndex n = .ok m ↔ n = m.index := by
  constructor
  · intro h
    unfold ofIndex at h
    split at h <;> cases h
    all_goals rfl
  · rintro rfl
    cases m <;> rfl

end StartMode

open StartMode in
/-- A text is read as a mode exactly if it is the name of the mode, which is also what is displayed in any width and what
the JSON string of the mode holds; any other text is reported unchanged.  A JSON value is read as a mode exactly if it is
the string of the name or the object of the name and null, so that a text, its JSON string and its object beside null
are all read as one mode or all refused, and a refused name is reported whatever stands beside it.  An index is read as
the mode in this place of the list of all modes.  What was encoded is read back, and no two modes share a name. -/
theorem decoders_accept_encodings :
    (∀ text m, parse text = .ok m ↔ text = m.name) ∧
      (∀ text e, parse text = .error e ↔ (∀ m, text ≠ name m) ∧ e = .unknownStartMode text) ∧
      (∀ m width, display m width = m.name ∧ m.toJson = .string m.name) ∧
      (∀ v m, ofJson v = .ok m ↔ v = .string m.name ∨ v = .object [(m.name, .null)]) ∧
      (∀ text,
        (∃ m, parse text = .ok m ∧ ofJson (.string text) = .ok m ∧ ofJson (.object [(text, .null)]) = .ok m) ∨
          parse text = .error (.unknownStartMode text) ∧ ofJson (.string text) = .error (.unknownName text) ∧
            ∀ value, ofJson (.object [(text, value)]) = .error (.unknownName text)) ∧
      (∀ (n : Int) m, ofIndex n = .ok m ↔ n < 5 ∧ ∃ place : Nat, n = place ∧ all[place]? = some m) ∧
      (∀ m width, parse (display m width) = .ok m ∧ ofJson m.toJson = .ok m ∧ ofIndex m.index = .ok m) ∧
      ∀ m m', name m = name m' ↔ m = m' := by
  have hjson : ∀ m : StartMode, m.toJson = .string m.name := fun m => congrArg Json.string m.jsonName_eq
  refine ⟨parse_eq_ok_iff, parse_eq_error_iff, fun m width => ⟨rfl, hjson m⟩, ofJson_eq_ok_iff, fun text => ?_,
    fun n m => ?_, fun m width => ⟨?_, ?_, ?_⟩, name_eq_name_iff⟩
  · -- all decoders ask whether the text is a name
    by_cases hm : ∃ m : StartMode, text = m.name
    · obtain ⟨m, hm⟩ := hm
      exact Or.inl ⟨m, (parse_eq_ok_iff text m).2 hm, (ofJsonName_eq_ok_iff text m).2 hm,
        (ofJson_member_eq_ok_iff text .null m).2 ⟨hm, rfl⟩⟩
    · have hm : ∀ m : StartMode, text ≠ m.name := not_exists.1 hm
      have hname : ofJsonName text = .error (.unknownName text) := (ofJsonName_eq_error_iff text _).2 ⟨hm, rfl⟩
      refine Or.inr ⟨(parse_eq_error_iff text _).2 ⟨hm, rfl⟩, hname, fun value => ?_⟩
      simp only [ofJson, hname]
  · simp only [ofIndex_eq_ok_iff, getElem?_all_eq_some_iff, exists_eq_right]
    constructor
    · rintro rfl
      exact ⟨by cases m <;> decide, rfl⟩
    · exact fun h => h.2
  · exact (parse_eq_ok_iff _ m).2 rfl
  · exact (ofJson_eq_ok_iff _ m).2 (Or.inl (hjson m))
  · exact (ofIndex_eq_ok_iff _ m).2 rfl

end StreamConsumer
