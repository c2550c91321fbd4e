import PermissionNames.Proofs.Token
import PermissionNames.Proofs.Transform

/-! Obfuscation gives every name a token of letters and numerals, whatever its digest is. -/

namespace PermissionNames

/-- Whether a text is the token of a digest: the first letters and numerals of its base64 text with zeros behind them, five characters in all.
They are five letters and numerals in capitals as well. -/
structure Token.IsTokenOf (digest : List UInt8) (token : List Char) : Prop where
  first : token = (((base64 digest).filter Char.isAlphanum).take 5).rightpad 5 '0'
  length : token.length = 5
  plain : ∀ c ∈ token, c.isAlphanum
  upperLength : (Casing.upper token).length = 5
  upperPlain : ∀ c ∈ Casing.upper token, c.isAlphanum

/-- Every digest has its token. -/
theorem Token.isTokenOf_ofDigest (digest : List UInt8) : IsTokenOf digest (ofDigest digest) := by
  -- Writing letters and numerals in capitals keeps their number.
  have letters : ∀ c ∈ ofDigest digest, c.isAlphanum := fun _ => isAlphanum_of_mem_ofDigest
  obtain ⟨length, capitals⟩ := Casing.upper_of_isAlphanum letters
  exact ⟨ofDigest_eq digest, length_ofDigest digest, letters,
    length.trans (length_ofDigest digest), capitals⟩

/-- Every name is replaced by the token of its digest, under the normalized name of an accepted algorithm and under every other name that it is found by.
Every byte string has a token of five letters and numerals, also in capitals.
Text of any length is cut and filled up by one rule. -/
theorem obfuscation_gives_token {requested used : String} {algorithm : Algorithm}
    (accepted : Algorithm.select requested = .ok algorithm)
    (reached : used = lowercase requested ∨ Algorithm.lookUp used = .ok algorithm) :
    (∀ name, ∃ token, (Stage.obfuscate used).rename name = .ok token ∧
      token.toList = Token.ofDigest (algorithm.digest (Utf8.encode name.toList))) ∧
    (∀ digest, Token.IsTokenOf digest (Token.ofDigest digest)) ∧
    ∀ text : String, (fitToken text).toList = (text.toList.take 5).rightpad 5 '0' := by
  -- Either way the name that is used leads to the accepted algorithm.
  have found : Algorithm.lookUp used = .ok algorithm := by
    rcases reached with rfl | found
    · exact Algorithm.lookUp_of_select accepted
    · exact found
  refine ⟨fun name => ?_, Token.isTokenOf_ofDigest, fun text => ?_⟩
  · refine ⟨obfuscated algorithm name, ?_, String.toList_ofList⟩
    rw [Stage.rename, found]
    rfl
  · rw [fitToken, String.toList_ofList]
    exact Token.fit_eq text.toList

/-- A capitalized request, whose digest is looked up under its normalized name. -/
theorem obfuscation_gives_token_capitalized :
    Algorithm.select "SHA3_384" = .ok .sha3x384 ∧
      ∃ token, (Stage.obfuscate "sha3_384").rename "read" = .ok token ∧
        token.toList = Token.ofDigest (Algorithm.sha3x384.digest (Utf8.encode "read".toList)) := by
  -- The normalized name is looked up, and not the requested one.
  have accepted : Algorithm.select "SHA3_384" = .ok .sha3x384 := by rfl
  exact ⟨accepted, (obfuscation_gives_token accepted (.inl (by decide))).1 "read"⟩

/-- An accepted spelling is not found as it stands, so obfuscation under it fails. -/
theorem capitalized_request_is_not_found :
    Algorithm.select "SHA3_384" = .ok .sha3x384 ∧
      (Stage.obfuscate "SHA3_384").rename "read" = .error (.unsupported "SHA3_384") := by
  -- The spelling is normalized when it is accepted, and taken as it stands when it is looked up.
  constructor
  · rfl
  · have unknown : Algorithm.lookUp "SHA3_384" = .error (.unsupported "SHA3_384") := by
      with_unfolding_all rfl
    rw [Stage.rename, unknown]
    rfl

end PermissionNames
