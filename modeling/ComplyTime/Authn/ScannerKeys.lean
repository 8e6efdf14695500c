import ComplyTime.Authn.OwnTokens

/-!
# Finding stored scanner keys

A scanner's key is stored under its issuer ID and looked up under the issuer
claim of its tokens, without trailing slashes.  Both requests go to a bucket
whose keys may not contain a colon.  The check that admits issuer IDs demands
a scheme, so the IDs it admits and the keys of the bucket have nothing in
common.
-/

namespace ComplyTime.Authn

open Trust KeyValue

/-! ## Issuer IDs as keys -/

theorem mem_of_indexOf {piece content : List Char} {position : ℕ}
    (hfound : indexOf piece content = some position) {character : Char}
    (hmem : character ∈ piece) : character ∈ content := by
  induction content generalizing position with
  | nil =>
    rw [indexOf] at hfound
    split at hfound
    · rename_i hnil
      rwa [hnil] at hmem
    · cases hfound
  | cons first content ih =>
    rw [indexOf] at hfound
    split at hfound
    · rename_i hstart
      exact (List.isPrefixOf_iff_prefix.mp hstart).subset hmem
    · obtain ⟨rest, hrest, -⟩ := Option.map_eq_some_iff.mp hfound
      exact List.mem_cons_of_mem _ (ih hrest)

variable {issuerID : String}

theorem validKey_of_validateIssuerURL {toLower : String → String}
    (hvalid : validateIssuerURL toLower issuerID = .ok ()) :
    validKey issuerID = false := by
  unfold validateIssuerURL at hvalid
  split at hvalid
  · cases hvalid
  · rename_i position hscheme
    have hcolon : ':' ∈ issuerID.toList := mem_of_indexOf hscheme (by decide)
    have hall : issuerID.toList.all isKeyCharacter = false := by
      rw [List.all_eq_false]
      exact ⟨':', hcolon, by decide⟩
    simp [validKey, hall]

variable {KeySet Document : Type*} {library : Library KeySet} {now : Time}

theorem storeJWK_of_invalidKey (hkey : validKey issuerID = false)
    (store : TrustStore Document) (fault : Option GoError) (jwk : Bytes)
    (notAfter : Time) :
    storeJWK store fault issuerID jwk notAfter =
      .error (.within ("storing JWK for issuer " ++ issuerID)
        invalidKey) := by
  simp [storeJWK, Bucket.put, hkey]

theorem getJWK_of_invalidKey (hkey : validKey issuerID = false)
    (store : TrustStore Document) (fault : Option GoError) (now : Time) :
    getJWK store fault now issuerID =
      .error (.within ("fetching JWK for issuer " ++ issuerID)
        invalidKey) := by
  simp [getJWK, Bucket.get, hkey, GoError.isKeyNotFound, invalidKey]

/-- What has been stored under a key is found there until it expires. -/
theorem getJWK_storeJWK (store : TrustStore Document) (jwk : Bytes)
    {notAfter : Time} (hkey : validKey issuerID = true)
    (hlive : now ≤ notAfter) :
    ∃ next, storeJWK store none issuerID jwk notAfter = .ok next ∧
      getJWK next none now issuerID = .ok (some ⟨jwk, notAfter⟩) := by
  refine ⟨_, storeJWK_ok store jwk notAfter hkey, ?_⟩
  simp [getJWK, Bucket.get, hkey, Int.not_lt.mpr hlive]

/-- For every issuer ID that is a key without trailing slashes, every scanner
key and every expiry that has not passed, storing succeeds, and authentication
of a token that names the ID and no configured issuer looks up exactly the
stored key and expiry and goes on with them.  For every issuer ID that
`ValidateIssuerURL` admits, storing and looking up are refused. -/
theorem stored_key_found_of_validKey (library : Library KeySet) (now : Time)
    (store : TrustStore Document) (issuerID : String) (jwk : Bytes)
    (notAfter : Time) :
    (validKey issuerID = true → trimSlashes issuerID = issuerID →
      now ≤ notAfter →
      ∃ next, storeJWK store none issuerID jwk notAfter = .ok next ∧
        ∀ (registry : IssuerRegistry) (jtiFault : Option CreateFault)
          (authorization tokenString : String) (token : Token),
          extractBearerToken authorization = .ok tokenString →
          library.parseInsecure tokenString = .ok token →
          token.issuer = some issuerID →
          registry.handler issuerID = .stored → registry.jwkStore = true →
          ∃ lookedUp, readToken library authorization =
              .ok (tokenString, lookedUp) ∧
            getJWK next none now lookedUp = .ok (some ⟨jwk, notAfter⟩) ∧
            (authenticate library now registry next ⟨none, jtiFault⟩
              authorization).1 =
              ((StaticJWKIssuer.mk issuerID jwk notAfter).authenticate library
                now registry.jtiStore next jtiFault tokenString
                registry.audience).1.map publisherPrincipal) ∧
    (validateIssuerURL library.toLower issuerID = .ok () →
      ∀ (fault : Option GoError),
        storeJWK store fault issuerID jwk notAfter =
          .error (.within ("storing JWK for issuer " ++ issuerID)
            invalidKey) ∧
        getJWK store fault now issuerID =
          .error (.within ("fetching JWK for issuer " ++ issuerID)
            invalidKey)) := by
  constructor
  · intro hkey htrimmed hlive
    obtain ⟨next, hstored, hfound⟩ := getJWK_storeJWK store jwk hkey hlive
    refine ⟨next, hstored, ?_⟩
    intro registry jtiFault authorization tokenString token hbearer hpeeked
      hissuer hhandler hjwk
    have hne : issuerID ≠ "" := by
      rintro rfl
      exact absurd hkey (by decide)
    have hread := readToken_of_peeked hbearer hpeeked hissuer hne
    rw [htrimmed] at hread
    refine ⟨issuerID, hread, hfound, ?_⟩
    obtain ⟨hoidc, hpublisher⟩ := handler_eq_stored_iff.mp hhandler
    rw [authenticate_of_read hread, dispatch, if_neg hoidc, hpublisher]
    simp only [authenticateStored, hjwk, if_true, hfound,
      StaticJWKIssuer.ofRecord]
  · intro hvalid fault
    have hkey := validKey_of_validateIssuerURL hvalid
    exact ⟨storeJWK_of_invalidKey hkey store fault jwk notAfter,
      getJWK_of_invalidKey hkey store fault now⟩

/-! ## An identifier without and one with a scheme -/

def scannerRegistry : IssuerRegistry :=
  { ownRegistry with
    jwkStore := true
    jtiStore := true
    jti_of_jwk := fun _ => rfl }

/-- The key of `scanner-sast-prod` is stored and found again. -/
theorem plain_identifier_found :
    ∃ next : TrustStore Unit,
      storeJWK emptyTrustStore none "scanner-sast-prod" [1, 2] 10 = .ok next ∧
      ∃ lookedUp, readToken ownLibrary ("Bearer " ++ scannerText) =
          .ok (scannerText, lookedUp) ∧
        getJWK next none 5 lookedUp = .ok (some ⟨[1, 2], 10⟩) := by
  obtain ⟨next, hstored, hfound⟩ := (stored_key_found_of_validKey ownLibrary 5
    emptyTrustStore "scanner-sast-prod" [1, 2] 10).1 (by decide) (by decide)
      (by decide)
  have hbearer : extractBearerToken ("Bearer " ++ scannerText) =
      .ok scannerText := extractBearerToken_bearer (by decide +kernel)
  have hpeeked : ownLibrary.parseInsecure scannerText =
      .ok (ownToken "scanner-sast-prod") :=
    parseInsecure_signedLibrary (readSigned_own
      (show ⟨scannerText, ownToken "scanner-sast-prod", [1, 2]⟩ ∈ ownTokens by
        simp [ownTokens]))
  have hhandler : scannerRegistry.handler "scanner-sast-prod" = .stored :=
    handler_eq_stored_iff.mpr ⟨by decide, by rfl⟩
  obtain ⟨lookedUp, hread, hlookup, -⟩ := hfound scannerRegistry none
    _ _ _ hbearer hpeeked rfl hhandler rfl
  exact ⟨next, hstored, lookedUp, hread, hlookup⟩

/-- An issuer ID with a scheme is admitted, and its key cannot be stored. -/
theorem admitted_identifier_refused :
    validateIssuerURL ownLibrary.toLower "https://scanner.example" = .ok () ∧
    ∀ notAfter, storeJWK (emptyTrustStore : TrustStore Unit) none
      "https://scanner.example" [1, 2] notAfter =
        .error (.within "storing JWK for issuer https://scanner.example"
          invalidKey) := by
  refine ⟨by rfl, ?_⟩
  intro notAfter
  exact storeJWK_of_invalidKey (by decide) _ _ _ _

end ComplyTime.Authn
