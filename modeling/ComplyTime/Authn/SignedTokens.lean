import ComplyTime.Authn.Issuers

/-!
# A library over a list of signed tokens

The tokens stand in a list with their compact texts and the keys they are signed
with.  Parsing looks the text up; verification compares the keys and validates
the issuer, the audience `gateway` and the times.  Every key set that is fetched
from a URL is `[0]`.
-/

namespace ComplyTime.Authn

structure Signed where
  tokenString : String
  token : Token
  keys : Bytes

/-- The text of a token with an ES256 header. -/
def compactText (payload : String) : String :=
  "eyJhbGciOiJFUzI1NiJ9." ++ payload ++ ".c2ln"

def readSigned (tokens : List Signed) (tokenString : String) :
    Except GoError Signed :=
  match tokens.find? fun signed => signed.tokenString = tokenString with
  | none => .error (.message "failed to parse jws")
  | some signed => .ok signed

/-- `iat` and `exp` lie within the skew. -/
def Token.timely (token : Token) (options : ParseOptions) : Prop :=
  (∀ issuedAt ∈ token.issuedAt,
    issuedAt ≤ options.now + options.acceptableSkew) ∧
  ∀ expiry ∈ token.expiration, options.now < expiry + options.acceptableSkew

instance (token : Token) (options : ParseOptions) :
    Decidable (token.timely options) :=
  inferInstanceAs (Decidable (_ ∧ _))

def Signed.verify (signed : Signed) (keys : Bytes) (options : ParseOptions) :
    Except GoError Token :=
  if signed.keys ≠ keys then .error (.message "could not verify message")
  else if signed.token.issuer ≠ some options.issuer then
    .error (.message "\"iss\" not satisfied")
  else if options.audience = "gateway" ∧ signed.token.timely options then
    .ok signed.token
  else .error (.message "claim validation failed")

def signedLibrary (tokens : List Signed) : Library Bytes where
  parseInsecure := fun tokenString =>
    (readSigned tokens tokenString).map Signed.token
  parse := fun keys options tokenString =>
    (readSigned tokens tokenString).bind fun signed =>
      signed.verify keys options
  parseKeySet := .ok
  lookup := fun _ => .ok [0]
  toLower := fun content => String.ofList (content.toList.map Char.toLower)
  formatTime := fun time => toString time
  formatDuration := fun duration => toString duration

variable {tokens : List Signed} {signed : Signed} {tokenString : String}
  {options : ParseOptions} {token : Token}

theorem readSigned_of_mem (hdistinct : (tokens.map Signed.tokenString).Nodup)
    (hmem : signed ∈ tokens) :
    readSigned tokens signed.tokenString = .ok signed := by
  have hfind : tokens.find?
      (fun found => found.tokenString = signed.tokenString) = some signed := by
    induction tokens with
    | nil => cases hmem
    | cons first tokens ih =>
      rw [List.map_cons, List.nodup_cons] at hdistinct
      rcases List.mem_cons.mp hmem with rfl | hrest
      · simp
      · have hne : first.tokenString ≠ signed.tokenString := by
          intro hsame
          exact hdistinct.1 (hsame ▸ List.mem_map_of_mem hrest)
        rw [List.find?_cons_of_neg (by simpa using hne)]
        exact ih hdistinct.2 hrest
  rw [readSigned, hfind]

theorem parseInsecure_signedLibrary
    (hread : readSigned tokens tokenString = .ok signed) :
    (signedLibrary tokens).parseInsecure tokenString = .ok signed.token := by
  simp [signedLibrary, hread, Except.map]

theorem verify_eq_ok {keys : Bytes}
    (hverified : signed.verify keys options = .ok token) :
    signed.token = token ∧ token.timely options := by
  unfold Signed.verify at hverified
  split at hverified
  · cases hverified
  split at hverified
  · cases hverified
  split at hverified
  · rename_i hvalid
    obtain rfl := Except.ok.inj hverified
    exact ⟨rfl, hvalid.2⟩
  · cases hverified

theorem signedLibrary_parse {keys : Bytes}
    (hparse : (signedLibrary tokens).parse keys options tokenString =
      .ok token) :
    (signedLibrary tokens).parseInsecure tokenString = .ok token ∧
      token.timely options := by
  change (readSigned tokens tokenString).bind _ = _ at hparse
  cases hread : readSigned tokens tokenString with
  | error err => simp [hread, Except.bind] at hparse
  | ok signed =>
    rw [hread] at hparse
    obtain ⟨rfl, htimely⟩ := verify_eq_ok hparse
    exact ⟨parseInsecure_signedLibrary hread, htimely⟩

theorem signedLibrary_agrees (tokens : List Signed) :
    (signedLibrary tokens).Agrees :=
  fun _ _ _ _ hparse => (signedLibrary_parse hparse).1

/-- A signed token passes for its own issuer. -/
theorem signedLibrary_verified
    (hread : readSigned tokens tokenString = .ok signed)
    (hissuer : signed.token.issuer = some options.issuer)
    (haudience : options.audience = "gateway")
    (htimely : signed.token.timely options) :
    (signedLibrary tokens).parse signed.keys options tokenString =
      .ok signed.token := by
  change (readSigned tokens tokenString).bind _ = _
  rw [hread]
  change signed.verify signed.keys options = _
  rw [Signed.verify, if_neg (not_not_intro rfl), if_neg (not_not_intro hissuer),
    if_pos ⟨haudience, htimely⟩]

theorem signedLibrary_refused
    (hread : readSigned tokens tokenString = .ok signed)
    (hissuer : signed.token.issuer ≠ some options.issuer) :
    (signedLibrary tokens).parse signed.keys options tokenString =
      .error (.message "\"iss\" not satisfied") := by
  change (readSigned tokens tokenString).bind _ = _
  rw [hread]
  change signed.verify signed.keys options = _
  rw [Signed.verify, if_neg (not_not_intro rfl), if_pos hissuer]

/-- An issuer with fetched keys accepts its signed token. -/
theorem authenticateCached_signedLibrary
    {tokenString fetching validationFailed url sub : String} {now : Time}
    (hread : readSigned tokens tokenString = .ok ⟨tokenString, token, [0]⟩)
    (hissuer : token.issuer = some url) (hsubject : token.subject = some sub)
    (hne : sub ≠ "") (htimely : token.timely (parseOptions url "gateway" now))
    (jwksURL : String) :
    authenticateCached (signedLibrary tokens) now fetching validationFailed
      url jwksURL "gateway" tokenString = .ok (token, sub) := by
  have hparse := signedLibrary_verified hread hissuer rfl htimely
  have hkeys : (signedLibrary tokens).lookup jwksURL = .ok [0] := rfl
  have hsub : requireSub "missing sub claim" token = .ok sub :=
    requireSub_eq_ok.mpr ⟨hsubject, hne⟩
  simp only at hparse
  simp [authenticateCached, validate, hkeys, hparse, hissuer, hsub, Except.map]

end ComplyTime.Authn
