import Lexical.Proofs.TokenStream

/-! Expectations of a stream of tokens. A question about the next token foretells whether the
expectation of the same would be met; an expectation takes the next token whether it is met or not;
and the error says which part of it was not met, and where.
-/

namespace Lexical

namespace Value

/-- Values of different sorts do not agree. -/
theorem beq_of_ctorIdx_ne {first second : Value} (differ : first.ctorIdx ≠ second.ctorIdx)
    : (first == second) = false := by
  cases first <;> cases second <;> first | rfl | exact (differ rfl).elim

/-- A float that is no number does not compare. -/
theorem compare_of_isNaN {number : Float} (h : number.isNaN) (other : Float)
    : number.toModel.unpack.compare other.toModel.unpack = none
      ∧ other.toModel.unpack.compare number.toModel.unpack = none := by
  have hnan : number.toModel.unpack.isNaN = true := h
  cases hnumber : number.toModel.unpack with
  | notANumber => cases other.toModel.unpack <;> exact ⟨rfl, rfl⟩
  | _ =>
      rw [hnumber] at hnan
      cases hnan

/-- A float that is no number agrees with no value, not even with itself. -/
theorem beq_of_isNaN {number : Float} (h : number.isNaN) (value : Value)
    : (.float number == value) = false ∧ (value == .float number) = false := by
  cases value with
  | float other =>
      obtain ⟨hleft, hright⟩ := compare_of_isNaN h other
      show (number.toModel.unpack.compare other.toModel.unpack == some .eq) = false
        ∧ (other.toModel.unpack.compare number.toModel.unpack == some .eq) = false
      rw [hleft, hright]
      exact ⟨rfl, rfl⟩
  | absent => exact ⟨rfl, rfl⟩
  | int _ => exact ⟨rfl, rfl⟩
  | text _ => exact ⟨rfl, rfl⟩
  | rune _ => exact ⟨rfl, rfl⟩

/-- The two zeros agree, whichever is which. -/
theorem beq_of_zeros {zero other : Float} (hzero : zero ∈ [0.0, -0.0])
    (hother : other ∈ [0.0, -0.0])
    : (float zero == float other) = true := by
  simp only [List.mem_cons, List.not_mem_nil, or_false] at hzero hother
  obtain rfl | rfl := hzero <;> obtain rfl | rfl := hother <;> decide

end Value

namespace TokenStream

variable {kind : Kind} {value : Value} {token : Token} {error : Error}

-----------------------------------------------------------------------------------------
-- Checks of a token
-----------------------------------------------------------------------------------------

theorem checkKind_of_eq (same : token.kind = kind) : checkKind kind token = .ok token :=
  if_pos (beq_iff_eq.2 same)

theorem checkKind_of_ne (differs : token.kind ≠ kind)
    : checkKind kind token
      = .error ⟨.unexpectedToken kind token.kind token.value, token.origin?⟩ :=
  if_neg (mt beq_iff_eq.1 differs)

theorem checkValue_of_beq (same : token.value == value) : checkValue kind value token = .ok token :=
  if_pos same

theorem checkValue_of_not_beq (differs : (token.value == value) = false)
    : checkValue kind value token
      = .error ⟨.unexpectedValue kind value token.kind token.value, token.origin?⟩ :=
  if_neg (Bool.eq_false_iff.1 differs)

-----------------------------------------------------------------------------------------
-- Expectations of the next token
-----------------------------------------------------------------------------------------

theorem expectKind_cons (kind : Kind) (token : Token) (rest : List Token)
    : expectKind ⟨token :: rest⟩ kind = (checkKind kind token, ⟨rest⟩) :=
  rfl

/-- The value is checked only where the kind is the expected one, so that a wrong kind is reported
whatever the value is.
-/
theorem expectValue_cons (kind : Kind) (value : Value) (token : Token) (rest : List Token)
    : expectValue ⟨token :: rest⟩ kind value
      = (if token.kind = kind then checkValue kind value token else checkKind kind token,
          ⟨rest⟩) := by
  show (checkKind kind token >>= checkValue kind value, _) = _
  split
  · next same => rw [checkKind_of_eq same]; rfl
  · next differs => rw [checkKind_of_ne differs]; rfl

theorem exists_expectKind_iff (kind : Kind) (token : Token) (rest : List Token)
    : (∃ found, (expectKind ⟨token :: rest⟩ kind).1 = .ok found) ↔ token.kind = kind := by
  rw [expectKind_cons]
  by_cases same : token.kind = kind
  · simp [checkKind_of_eq same, same]
  · simp [checkKind_of_ne same, same]

theorem exists_expectValue_iff (kind : Kind) (value : Value) (token : Token) (rest : List Token)
    : (∃ found, (expectValue ⟨token :: rest⟩ kind value).1 = .ok found)
      ↔ token.kind = kind ∧ token.value == value := by
  rw [expectValue_cons]
  by_cases sameKind : token.kind = kind
  · cases sameValue : token.value == value with
    | true => simp [checkValue_of_beq sameValue, sameKind]
    | false => simp [checkValue_of_not_beq sameValue, sameKind]
  · simp [checkKind_of_ne sameKind, sameKind]

theorem expectKind_eq_error_iff (kind : Kind) (token : Token) (rest : List Token) (error : Error)
    : (expectKind ⟨token :: rest⟩ kind).1 = .error error
      ↔ token.kind ≠ kind
        ∧ error = ⟨.unexpectedToken kind token.kind token.value, token.origin?⟩ := by
  rw [expectKind_cons]
  by_cases same : token.kind = kind
  · simp [checkKind_of_eq same, same]
  · simp [checkKind_of_ne same, same, @eq_comm _ error]

/-- Of two parts of an expectation that are not met, the kind is the one that is reported. -/
theorem expectValue_eq_error_iff (kind : Kind) (value : Value) (token : Token) (rest : List Token)
    (error : Error)
    : (expectValue ⟨token :: rest⟩ kind value).1 = .error error
      ↔ token.kind ≠ kind
          ∧ error = ⟨.unexpectedToken kind token.kind token.value, token.origin?⟩
        ∨ token.kind = kind
          ∧ (token.value == value) = false
          ∧ error = ⟨.unexpectedValue kind value token.kind token.value, token.origin?⟩ := by
  rw [expectValue_cons]
  by_cases sameKind : token.kind = kind
  · cases sameValue : token.value == value with
    | true => simp [checkValue_of_beq sameValue, sameKind]
    | false => simp [checkValue_of_not_beq sameValue, sameKind, @eq_comm _ error]
  · simp [checkKind_of_ne sameKind, sameKind, @eq_comm _ error]

-----------------------------------------------------------------------------------------
-- Questions about the next token
-----------------------------------------------------------------------------------------

/-- The next token is of the kind just where one of the kind can be expected. -/
theorem nextIs_iff (stream : TokenStream) (kind : Kind)
    : stream.nextIs kind ↔ ∃ found, (stream.expectKind kind).1 = .ok found := by
  obtain ⟨_ | ⟨token, rest⟩⟩ := stream
  · exact ⟨nofun, nofun⟩
  · rw [exists_expectKind_iff]
    exact beq_iff_eq

/-- The next token is of one of the kinds just where one of them can be expected. -/
theorem nextIsAny_iff (stream : TokenStream) (kinds : List Kind)
    : stream.nextIsAny kinds
      ↔ ∃ kind ∈ kinds, ∃ found, (stream.expectKind kind).1 = .ok found := by
  obtain ⟨_ | ⟨token, rest⟩⟩ := stream
  · exact ⟨nofun, nofun⟩
  · simp only [exists_expectKind_iff]
    show kinds.any (token.kind == ·) ↔ _
    simp only [List.any_eq_true, beq_iff_eq]

/-- The next token is of the kind and holds the value just where such a one can be expected. -/
theorem nextHolds_iff (stream : TokenStream) (kind : Kind) (value : Value)
    : stream.nextHolds kind value
      ↔ ∃ found, (stream.expectValue kind value).1 = .ok found := by
  obtain ⟨_ | ⟨token, rest⟩⟩ := stream
  · exact ⟨nofun, nofun⟩
  · rw [exists_expectValue_iff, ← beq_iff_eq (a := token.kind), ← Bool.and_eq_true]
    exact Iff.rfl

/-- What is no number is never found next, whatever the next token holds. -/
theorem nextHolds_of_isNaN {number : Float} (h : number.isNaN) (stream : TokenStream) (kind : Kind)
    : stream.nextHolds kind (.float number) = false := by
  obtain ⟨_ | ⟨token, rest⟩⟩ := stream
  · rfl
  · show (token.isKind kind && token.value == .float number) = false
    rw [(Value.beq_of_isNaN h _).2, Bool.and_false]

-----------------------------------------------------------------------------------------
-- Questions and expectations
-----------------------------------------------------------------------------------------

/-- Questions and expectations agree, and an expectation takes one token. The next token is of the
kind, of one of the kinds or of the kind with the value just where this can be expected with
success, which gives that token. Values agree in their sort and their content, where a float that is
no number agrees with nothing, so that it is neither found nor met, and the two zeros agree. At the
end every expectation fails with the kind that was wanted, without a place, and leaves the stream as
it is. Otherwise it takes the next token and nothing else, be it met or not, and fails in one of two
ways, with the kind and the value of the token and with its origin if it has one: another kind is
reported whatever the value, and another value where the kind is the expected one.
-/
theorem expectations_follow_questions (stream : TokenStream) (kind : Kind) (value : Value)
    : let byKind := stream.expectKind kind
      let byValue := stream.expectValue kind value
      (stream.nextIs kind ↔ ∃ token, byKind.1 = .ok token)
      ∧ (stream.nextHolds kind value ↔ ∃ token, byValue.1 = .ok token)
      ∧ (∀ kinds,
          stream.nextIsAny kinds
          ↔ ∃ other ∈ kinds, ∃ token, (stream.expectKind other).1 = .ok token)
      ∧ (∀ number : Float, number.isNaN → stream.nextHolds kind (.float number) = false)
      ∧ (∀ first second : Value, first.ctorIdx ≠ second.ctorIdx → (first == second) = false)
      ∧ (∀ (number : Float) (other : Value),
          number.isNaN
          → (.float number == other) = false ∧ (other == .float number) = false)
      ∧ (∀ zero ∈ [0.0, -0.0],
          ∀ other ∈ [0.0, -0.0], (Value.float zero == Value.float other) = true)
      ∧ (∀ token,
          (stream.expectToken kind).1 = .ok token
            ∨ byKind.1 = .ok token
            ∨ byValue.1 = .ok token
          → stream.remaining.head? = some token)
      ∧ (stream.remaining = []
          → ∀ result ∈ [stream.expectToken kind, byKind, byValue],
              result = (.error { cause := .unexpectedEnd kind, place? := none }, stream))
      ∧ ∀ token rest,
          stream.remaining = token :: rest
          → stream.expectToken kind = (.ok token, ⟨rest⟩)
            ∧ byKind.2 = ⟨rest⟩
            ∧ byValue.2 = ⟨rest⟩
            ∧ (∀ error,
                byKind.1 = .error error
                ↔ token.kind ≠ kind
                  ∧ error
                    = ⟨.unexpectedToken kind token.kind token.value, token.origin?⟩)
            ∧ ∀ error,
                byValue.1 = .error error
                ↔ token.kind ≠ kind
                    ∧ error
                      = ⟨.unexpectedToken kind token.kind token.value, token.origin?⟩
                  ∨ token.kind = kind
                    ∧ (token.value == value) = false
                    ∧ error
                      = ⟨.unexpectedValue kind value token.kind token.value,
                          token.origin?⟩ := by
  intro byKind byValue
  refine ⟨stream.nextIs_iff kind, stream.nextHolds_iff kind value,
    fun kinds => stream.nextIsAny_iff kinds, fun number h => nextHolds_of_isNaN h stream kind,
    fun _ _ => Value.beq_of_ctorIdx_ne, fun _ other h => Value.beq_of_isNaN h other,
    fun _ hzero _ hother => Value.beq_of_zeros hzero hother, ?_, ?_, ?_⟩
  · rintro token (given | given | given)
    · exact head?_of_expectToken given
    · exact head?_of_expectKind given
    · exact head?_of_expectValue given
  · obtain ⟨remaining⟩ := stream
    rintro rfl result member
    simp only [List.mem_cons, List.not_mem_nil, or_false] at member
    rcases member with rfl | rfl | rfl <;> rfl
  · obtain ⟨remaining⟩ := stream
    rintro token rest rfl
    exact ⟨rfl, rfl, rfl, expectKind_eq_error_iff kind token rest,
      expectValue_eq_error_iff kind value token rest⟩

end TokenStream

end Lexical
