import ComplyTime.Core.KeyValue
import ComplyTime.Messages
import Mathlib.Data.List.Chain

/-!
# The trust store

`TrustStore` keeps four NATS buckets: publisher trust lists, the subject
registry, static scanner keys and claimed token identifiers.  A trust list is
stored as a JSON document; the document type and the two directions of the
codec are parameters, so that unreadable documents stay expressible.
`SetPublisherTrust` is kept as its two separate requests, because other writers
may come between the read and the write.
-/

namespace ComplyTime.Trust

open Subjects KeyValue

def second : Time := 1000000000

def minute : Time := 60 * second

/-- `json.Marshal` and `json.Unmarshal` of a trust list. -/
structure TrustCodec (Document : Type*) where
  marshal : List TrustEntry → Document
  unmarshal : Document → Except GoError (List TrustEntry)

/-- `trust.JWKRecord`. -/
structure JWKRecord where
  jwk : Bytes
  notAfter : Time

structure TrustStore (Document : Type*) where
  publisherKV : Bucket Document
  subjectKV : Bucket Unit
  jwkKV : Bucket JWKRecord
  /-- `jti-replay`: the instant at which each identifier was claimed. -/
  jtiKV : String → Option Time

variable {Document : Type*}

def emptyTrustStore : TrustStore Document where
  publisherKV := emptyBucket
  subjectKV := emptyBucket
  jwkKV := emptyBucket
  jtiKV := fun _ => none

/-- `subjects.{subject_id}`. -/
def subjectKey (subjectID : SubjectID) : String := "subjects." ++ subjectID

/-- `strings.ReplaceAll` of line breaks, as used in every error text. -/
def logSubjectID (subjectID : String) : String :=
  String.ofList (subjectID.toList.filter fun character =>
    character != '\n' && character != '\r')

def isPublisherTrusted (codec : TrustCodec Document)
    (store : TrustStore Document) (fault : Option GoError)
    (subjectID : SubjectID) (issuer sub : String) : Except GoError Bool :=
  match store.publisherKV.get fault (subjectKey subjectID) with
  | .error err =>
    if err.isKeyNotFound then .ok false
    else .error (.within
      ("trust lookup failed for subject " ++ logSubjectID subjectID) err)
  | .ok entry =>
    match codec.unmarshal entry.value with
    | .error err => .error (.within
        ("parsing trust list for subject " ++ logSubjectID subjectID) err)
    | .ok trustList =>
      .ok (trustList.any fun trusted =>
        decide (trusted.issuer = issuer) && decide (trusted.sub = sub))

/-- First request of `SetPublisherTrust`: the revision to write over, or
`none` when the key has to be created. -/
def readTrustRevision (store : TrustStore Document) (fault : Option GoError)
    (subjectID : SubjectID) : Except GoError (Option ℕ) :=
  match store.publisherKV.get fault (subjectKey subjectID) with
  | .ok entry => .ok (some entry.revision)
  | .error err =>
    if err.isKeyNotFound then .ok none
    else .error (.within
      ("reading current trust for subject " ++ logSubjectID subjectID) err)

def creatingTrust (subjectID : SubjectID) (err : GoError) : GoError :=
  .within ("creating trust for subject " ++ logSubjectID subjectID) err

def updatingTrust (subjectID : SubjectID) (err : GoError) : GoError :=
  .within ("updating trust for subject " ++ logSubjectID subjectID ++
    " (concurrent modification)") err

/-- Second request of `SetPublisherTrust`. -/
def writeTrust (codec : TrustCodec Document) (store : TrustStore Document)
    (fault : Option GoError) (subjectID : SubjectID)
    (publishers : List TrustEntry) (revision : Option ℕ) :
    Except GoError (TrustStore Document) :=
  let written := match revision with
    | none => store.publisherKV.create fault (subjectKey subjectID)
        (codec.marshal publishers)
    | some current => store.publisherKV.update fault (subjectKey subjectID)
        (codec.marshal publishers) current
  match written, revision with
  | .ok bucket, _ => .ok { store with publisherKV := bucket }
  | .error err, none => .error (creatingTrust subjectID err)
  | .error err, some _ => .error (updatingTrust subjectID err)

def registerSubject (store : TrustStore Document) (fault : Option GoError)
    (subjectID : SubjectID) : Except GoError (TrustStore Document) :=
  match store.subjectKV.put fault subjectID () with
  | .ok bucket => .ok { store with subjectKV := bucket }
  | .error err => .error (.within
      ("registering subject " ++ logSubjectID subjectID) err)

def subjectExists (store : TrustStore Document) (fault : Option GoError)
    (subjectID : SubjectID) : Except GoError Bool :=
  match store.subjectKV.get fault subjectID with
  | .ok _ => .ok true
  | .error err =>
    if err.isKeyNotFound then .ok false
    else .error (.within
      ("checking subject existence " ++ logSubjectID subjectID) err)

def storeJWK (store : TrustStore Document) (fault : Option GoError)
    (issuerID : String) (jwk : Bytes) (notAfter : Time) :
    Except GoError (TrustStore Document) :=
  match store.jwkKV.put fault issuerID ⟨jwk, notAfter⟩ with
  | .ok bucket => .ok { store with jwkKV := bucket }
  | .error err => .error (.within ("storing JWK for issuer " ++ issuerID) err)

/-- `GetJWK`: an absent or expired record is `none`, not an error. -/
def getJWK (store : TrustStore Document) (fault : Option GoError)
    (now : Time) (issuerID : String) : Except GoError (Option JWKRecord) :=
  match store.jwkKV.get fault issuerID with
  | .error err =>
    if err.isKeyNotFound then .ok none
    else .error (.within ("fetching JWK for issuer " ++ issuerID) err)
  | .ok entry =>
    if entry.value.notAfter < now then .ok none else .ok (some entry.value)

/-- `JTIReplayKVConfig().TTL`. -/
def jtiReplayTTL : Time := 15 * minute

/-- What goes wrong with a `Create`: the bucket does not serve it, or serves it
and the reply is lost. -/
inductive CreateFault
  | unserved (err : GoError)
  | unanswered (err : GoError)

/-- An earlier claim of the identifier still holds. -/
def TrustStore.claimed (store : TrustStore Document) (now : Time)
    (jti : String) : Bool :=
  (store.jtiKV jti).any fun claimedAt => now < claimedAt + jtiReplayTTL

/-- `Create` on a bucket whose keys live for `jtiReplayTTL`. -/
def TrustStore.claim (store : TrustStore Document) (now : Time)
    (jti : String) : TrustStore Document :=
  if store.claimed now jti then store
  else { store with jtiKV := Function.update store.jtiKV jti (some now) }

def claimJTI (store : TrustStore Document) (fault : Option CreateFault)
    (now : Time) (jti : String) : Except GoError Unit × TrustStore Document :=
  if validKey jti then
    match fault with
    | some (.unserved err) => (.error (.within "claiming jti" err), store)
    | some (.unanswered err) =>
      (.error (.within "claiming jti" err), store.claim now jti)
    | none =>
      (if store.claimed now jti then
        .error (.message ("token jti " ++ jti.quote ++
          " already used (replay attempt)"))
      else .ok (), store.claim now jti)
  else (.error (.within "claiming jti" invalidKey), store)

/-- The trust list a failure-free read of the subject's entry yields. -/
def storedTrustList (codec : TrustCodec Document)
    (store : TrustStore Document) (subjectID : SubjectID) :
    Option (List TrustEntry) :=
  (store.publisherKV.entries (subjectKey subjectID)).bind fun entry =>
    (codec.unmarshal entry.value).toOption

/-- The subject has an entry in the subject registry. -/
def Registered (store : TrustStore Document) (subjectID : SubjectID) : Prop :=
  (store.subjectKV.entries subjectID).isSome

instance (store : TrustStore Document) (subjectID : SubjectID) :
    Decidable (Registered store subjectID) :=
  inferInstanceAs (Decidable ((store.subjectKV.entries subjectID).isSome))

/-! ## Keys of valid subjects -/

variable {character : Char} {subjectID : SubjectID}
  {store next : TrustStore Document} {fault : Option GoError}

theorem isKeyCharacter_of_isSlugCharacter
    (hslug : isSlugCharacter character = true) :
    isKeyCharacter character = true ∧ character ≠ '.' := by
  constructor
  · simp only [isSlugCharacter, isAlphanumeric, Bool.or_eq_true] at hslug
    simp only [isKeyCharacter, Bool.or_eq_true]
    tauto
  · rintro rfl
    exact absurd hslug (by decide)

section

variable (hvalid : ValidSubjectID subjectID)

include hvalid

theorem isSlugCharacter_of_mem (hmem : character ∈ subjectID.toList) :
    isSlugCharacter character = true := by
  rw [validSubjectID_iff] at hvalid
  unfold subjectIDPattern at hvalid
  cases hlist : subjectID.toList with
  | nil => simp [hlist] at hmem
  | cons first rest =>
    rw [hlist] at hvalid hmem
    simp only [Bool.and_eq_true, List.all_eq_true] at hvalid
    rcases List.mem_cons.mp hmem with rfl | hrest
    · simp [isSlugCharacter, hvalid.1.1]
    · exact hvalid.1.2 character hrest

theorem toList_ne_nil :
    subjectID.toList ≠ [] := by
  intro hnil
  rw [validSubjectID_iff] at hvalid
  simp [subjectIDPattern, hnil] at hvalid

theorem isKeyCharacter_of_mem (hmem : character ∈ subjectID.toList) :
    isKeyCharacter character = true ∧ character ≠ '.' :=
  isKeyCharacter_of_isSlugCharacter (isSlugCharacter_of_mem hvalid hmem)

theorem isChain_toList :
    subjectID.toList.IsChain fun left right => left ≠ '.' ∨ right ≠ '.' := by
  apply List.Pairwise.isChain
  exact List.Pairwise.imp_of_mem (fun hleft _ _ =>
    .inl (isKeyCharacter_of_mem hvalid hleft).2)
    (List.pairwise_of_forall fun _ _ => trivial)

theorem validKey_of_validSubjectID :
    validKey subjectID = true := by
  have hne := toList_ne_nil hvalid
  simp only [validKey, Bool.and_eq_true, Bool.not_eq_true',
    List.isEmpty_eq_false_iff, List.all_eq_true, bne_iff_ne,
    decide_eq_true_eq]
  refine ⟨⟨⟨⟨hne, fun character hmem => ?_⟩, fun hhead => ?_⟩,
    fun hlast => ?_⟩, isChain_toList hvalid⟩
  · exact (isKeyCharacter_of_mem hvalid hmem).1
  · exact (isKeyCharacter_of_mem hvalid (List.mem_of_head? hhead)).2 rfl
  · exact (isKeyCharacter_of_mem hvalid (List.mem_of_getLast? hlast)).2 rfl

end

theorem subjectKey_injective : Function.Injective subjectKey := by
  intro left right heq
  have hlists := congrArg String.toList heq
  simp only [subjectKey, String.toList_append,
    List.append_cancel_left_eq] at hlists
  exact String.toList_inj.mp hlists

theorem validKey_subjectKey (hvalid : ValidSubjectID subjectID) :
    validKey (subjectKey subjectID) = true := by
  have hne := toList_ne_nil hvalid
  have hlist : (subjectKey subjectID).toList =
      "subjects.".toList ++ subjectID.toList := String.toList_append
  simp only [validKey, hlist, Bool.and_eq_true, Bool.not_eq_true',
    List.isEmpty_eq_false_iff, List.all_eq_true, bne_iff_ne,
    decide_eq_true_eq]
  have hhead : "subjects.".toList = 's' :: "ubjects.".toList := by decide
  have hkey : "subjects.".toList.all isKeyCharacter = true := by decide
  refine ⟨⟨⟨⟨by simp, fun character hmem => ?_⟩, by simp [hhead]⟩,
    fun hlast => ?_⟩, List.isChain_append.mpr ⟨by decide,
      isChain_toList hvalid, fun _ _ character hfirst => ?_⟩⟩
  · rcases List.mem_append.mp hmem with hliteral | hslug
    · exact List.all_eq_true.mp hkey character hliteral
    · exact (isKeyCharacter_of_mem hvalid hslug).1
  · rw [List.getLast?_append_of_ne_nil _ hne] at hlast
    exact (isKeyCharacter_of_mem hvalid (List.mem_of_getLast? hlast)).2 rfl
  · exact .inr (isKeyCharacter_of_mem hvalid (List.mem_of_head? hfirst)).2

/-! ## Requests that meet no failure -/

/-- The read yields the revision of the entry, if there is one. -/
theorem readTrustRevision_ok (store : TrustStore Document)
    (hvalid : ValidSubjectID subjectID) :
    readTrustRevision store none subjectID =
      .ok ((store.publisherKV.entries (subjectKey subjectID)).map
        Revisioned.revision) := by
  have hkey := validKey_subjectKey hvalid
  unfold readTrustRevision Bucket.get
  cases hentry : store.publisherKV.entries (subjectKey subjectID) with
  | none => simp [hkey, GoError.isKeyNotFound]
  | some entry => simp [hkey]

/-- The write that follows the read at once goes through. -/
theorem writeTrust_ok (codec : TrustCodec Document)
    (store : TrustStore Document) (publishers : List TrustEntry)
    (hvalid : ValidSubjectID subjectID) :
    writeTrust codec store none subjectID publishers
        ((store.publisherKV.entries (subjectKey subjectID)).map
          Revisioned.revision) =
      .ok { store with
        publisherKV := store.publisherKV.write (subjectKey subjectID)
          (codec.marshal publishers) } := by
  have hkey := validKey_subjectKey hvalid
  unfold writeTrust Bucket.create Bucket.update
  cases hentry : store.publisherKV.entries (subjectKey subjectID) with
  | none => simp [hkey]
  | some entry => simp [hkey]

theorem registerSubject_ok (store : TrustStore Document)
    (hvalid : ValidSubjectID subjectID) :
    registerSubject store none subjectID =
      .ok { store with subjectKV := store.subjectKV.write subjectID () } := by
  simp [registerSubject, Bucket.put, validKey_of_validSubjectID hvalid]

theorem storeJWK_ok (store : TrustStore Document) {issuerID : String}
    (jwk : Bytes) (notAfter : Time) (hkey : validKey issuerID = true) :
    storeJWK store none issuerID jwk notAfter =
      .ok { store with jwkKV := store.jwkKV.write issuerID ⟨jwk, notAfter⟩ } := by
  simp [storeJWK, Bucket.put, hkey]

/-! ## Trust decisions -/

section

variable (codec : TrustCodec Document)

theorem isPublisherTrusted_congr {store other : TrustStore Document}
    (hbucket : store.publisherKV = other.publisherKV) :
    isPublisherTrusted codec store = isPublisherTrusted codec other := by
  funext fault subjectID issuer sub
  unfold isPublisherTrusted
  rw [hbucket]

section

variable (store : TrustStore Document) (fault : Option GoError)

/-- Where the key is valid, a publisher is trusted when the read meets no
failure and the stored list has its identity. -/
theorem isPublisherTrusted_eq_true_iff_of_key
    (hkey : validKey (subjectKey subjectID) = true) (issuer sub : String) :
    isPublisherTrusted codec store fault subjectID issuer sub = .ok true ↔
      fault = none ∧
        ∃ trustList, storedTrustList codec store subjectID = some trustList ∧
          ⟨issuer, sub⟩ ∈ trustList := by
  unfold isPublisherTrusted storedTrustList Bucket.get
  rw [if_pos hkey]
  cases fault with
  | some err => by_cases hnotFound : err.isKeyNotFound = true <;>
      simp [hnotFound]
  | none =>
    cases hentry : store.publisherKV.entries (subjectKey subjectID) with
    | none => simp [GoError.isKeyNotFound]
    | some entry =>
      cases hlist : codec.unmarshal entry.value with
      | error err => simp [hlist, Except.toOption]
      | ok trustList =>
        have hmem : (∃ trusted ∈ trustList,
            trusted.issuer = issuer ∧ trusted.sub = sub) ↔
            (⟨issuer, sub⟩ : TrustEntry) ∈ trustList := by
          constructor
          · rintro ⟨⟨_, _⟩, htrusted, rfl, rfl⟩
            exact htrusted
          · intro htrusted
            exact ⟨⟨issuer, sub⟩, htrusted, rfl, rfl⟩
        simp [hlist, Except.toOption, hmem]

theorem isPublisherTrusted_eq_true_iff (hvalid : ValidSubjectID subjectID)
    (issuer sub : String) :
    isPublisherTrusted codec store fault subjectID issuer sub = .ok true ↔
      fault = none ∧
        ∃ trustList, storedTrustList codec store subjectID = some trustList ∧
          ⟨issuer, sub⟩ ∈ trustList :=
  isPublisherTrusted_eq_true_iff_of_key codec store fault
    (validKey_subjectKey hvalid) issuer sub

theorem isPublisherTrusted_of_invalidKey
    (hkey : validKey (subjectKey subjectID) = false) (issuer sub : String) :
    isPublisherTrusted codec store fault subjectID issuer sub ≠ .ok true := by
  have hget : store.publisherKV.get fault (subjectKey subjectID) =
      .error invalidKey := by
    simp [Bucket.get, hkey]
  intro htrusted
  unfold isPublisherTrusted at htrusted
  rw [hget] at htrusted
  cases htrusted

end

end

/-! ## Effects -/

section

variable {codec : TrustCodec Document} {publishers : List TrustEntry}
  {revision : Option ℕ}
  (hwrite : writeTrust codec store fault subjectID publishers revision =
    .ok next)

include hwrite

/-- A trust write succeeds over the revision its writer has read, and writes
the list under the subject's key. -/
theorem writeTrust_eq_ok :
    (store.publisherKV.entries (subjectKey subjectID)).map
        Revisioned.revision = revision ∧
      next = { store with
        publisherKV := store.publisherKV.write (subjectKey subjectID)
          (codec.marshal publishers) } := by
  unfold writeTrust at hwrite
  cases revision with
  | none =>
    simp only at hwrite
    split at hwrite
    · rename_i bucket _ hcreate
      obtain ⟨habsent, rfl⟩ := create_eq_ok hcreate
      exact ⟨by rw [habsent]; rfl, (Except.ok.inj hwrite).symm⟩
    · cases hwrite
    · cases hwrite
  | some current =>
    simp only at hwrite
    split at hwrite
    · rename_i bucket _ hupdate
      obtain ⟨⟨old, hpresent⟩, rfl⟩ := update_eq_ok hupdate
      exact ⟨by rw [hpresent]; rfl, (Except.ok.inj hwrite).symm⟩
    · cases hwrite
    · cases hwrite

theorem validKey_of_writeTrust : validKey (subjectKey subjectID) = true := by
  unfold writeTrust at hwrite
  cases revision with
  | none =>
    simp only at hwrite
    split at hwrite
    · rename_i hcreate
      exact validKey_of_create hcreate
    · cases hwrite
    · cases hwrite
  | some current =>
    simp only at hwrite
    split at hwrite
    · rename_i hupdate
      exact validKey_of_update hupdate
    · cases hwrite
    · cases hwrite

end

theorem writeTrust_of_fault (codec : TrustCodec Document)
    (store : TrustStore Document) (err : GoError) (subjectID : SubjectID)
    (publishers : List TrustEntry) (revision : Option ℕ) :
    ∃ refusal, writeTrust codec store (some err) subjectID publishers
      revision = .error refusal := by
  unfold writeTrust
  cases revision with
  | none =>
    obtain ⟨refusal, hrefusal⟩ := create_of_fault store.publisherKV err
      (subjectKey subjectID) (codec.marshal publishers)
    simp only [hrefusal]
    exact ⟨_, rfl⟩
  | some current =>
    obtain ⟨refusal, hrefusal⟩ := update_of_fault store.publisherKV err
      (subjectKey subjectID) (codec.marshal publishers) current
    simp only [hrefusal]
    exact ⟨_, rfl⟩

theorem registerSubject_of_fault (store : TrustStore Document)
    (err : GoError) (subjectID : SubjectID) :
    ∃ refusal, registerSubject store (some err) subjectID = .error refusal := by
  obtain ⟨refusal, hrefusal⟩ := put_of_fault store.subjectKV err subjectID ()
  simp only [registerSubject, hrefusal]
  exact ⟨_, rfl⟩

theorem storeJWK_of_fault (store : TrustStore Document) (err : GoError)
    (issuerID : String) (jwk : Bytes) (notAfter : Time) :
    ∃ refusal, storeJWK store (some err) issuerID jwk notAfter =
      .error refusal := by
  obtain ⟨refusal, hrefusal⟩ := put_of_fault store.jwkKV err issuerID
    (⟨jwk, notAfter⟩ : JWKRecord)
  simp only [storeJWK, hrefusal]
  exact ⟨_, rfl⟩

theorem registerSubject_eq_ok
    (hwrite : registerSubject store fault subjectID = .ok next) :
    next = { store with
      subjectKV := store.subjectKV.write subjectID () } := by
  unfold registerSubject at hwrite
  split at hwrite
  · rename_i bucket hput
    rw [← Except.ok.inj hwrite, put_eq_ok hput]
  · cases hwrite

theorem storeJWK_eq_ok {issuerID : String} {jwk : Bytes} {notAfter : Time}
    (hstore : storeJWK store fault issuerID jwk notAfter = .ok next) :
    next = { store with
      jwkKV := store.jwkKV.write issuerID ⟨jwk, notAfter⟩ } := by
  unfold storeJWK at hstore
  split at hstore
  · rename_i bucket hput
    rw [← Except.ok.inj hstore, put_eq_ok hput]
  · cases hstore

section Claims

variable {other : TrustStore Document} {fault : Option CreateFault} {now : Time}
  {jti : String}

theorem claimed_eq_false_iff : store.claimed now jti = false ↔
    ∀ claimedAt, store.jtiKV jti = some claimedAt →
      claimedAt + jtiReplayTTL ≤ now := by
  unfold TrustStore.claimed
  cases store.jtiKV jti <;> simp

theorem claim_of_not_claimed (hfree : store.claimed now jti = false) :
    store.claim now jti = { store with
      jtiKV := Function.update store.jtiKV jti (some now) } := by
  simp [TrustStore.claim, hfree]

/-- A claim succeeds only if no earlier one holds, and then it is made; one that
fails may have been made all the same. -/
theorem claimJTI_cases (store : TrustStore Document)
    (fault : Option CreateFault) (now : Time) (jti : String) :
    ((∃ err, (claimJTI store fault now jti).1 = .error err) ∧
      (claimJTI store fault now jti).2 = store) ∨
    (store.claimed now jti = false ∧
      (claimJTI store fault now jti).2 = store.claim now jti) := by
  unfold claimJTI
  split
  · split
    · exact .inl ⟨⟨_, rfl⟩, rfl⟩
    · by_cases hclaimed : store.claimed now jti = true
      · exact .inl ⟨⟨_, rfl⟩, if_pos hclaimed⟩
      · exact .inr ⟨Bool.not_eq_true _ ▸ hclaimed, rfl⟩
    · by_cases hclaimed : store.claimed now jti = true
      · exact .inl ⟨⟨_, if_pos hclaimed⟩, if_pos hclaimed⟩
      · exact .inr ⟨Bool.not_eq_true _ ▸ hclaimed, rfl⟩
  · exact .inl ⟨⟨_, rfl⟩, rfl⟩

/-- How a claim ends, and what it leaves under the identifier, depends on the
claims of the same identifier only. -/
theorem claimJTI_congr (hsame : store.jtiKV jti = other.jtiKV jti)
    (fault : Option CreateFault) (now : Time) :
    (claimJTI store fault now jti).1 = (claimJTI other fault now jti).1 ∧
    (claimJTI store fault now jti).2.jtiKV jti =
      (claimJTI other fault now jti).2.jtiKV jti := by
  have hclaimed : store.claimed now jti = other.claimed now jti := by
    rw [TrustStore.claimed, hsame]
    rfl
  have hclaim : (store.claim now jti).jtiKV jti =
      (other.claim now jti).jtiKV jti := by
    unfold TrustStore.claim
    rw [hclaimed]
    split
    · exact hsame
    · simp
  unfold claimJTI
  split
  · split
    · exact ⟨rfl, hsame⟩
    · exact ⟨rfl, hclaim⟩
    · exact ⟨by rw [hclaimed], hclaim⟩
  · exact ⟨rfl, hsame⟩

theorem publisherKV_claimJTI :
    (claimJTI store fault now jti).2.publisherKV = store.publisherKV := by
  rcases claimJTI_cases store fault now jti with ⟨-, hnext⟩ | ⟨hfree, hnext⟩
  · rw [hnext]
  · rw [hnext, claim_of_not_claimed hfree]

end Claims

theorem registered_of_subjectExists {store : TrustStore Document}
    (hexists : subjectExists store fault subjectID = .ok true) :
    Registered store subjectID := by
  unfold subjectExists at hexists
  split at hexists
  · rename_i entry hget
    unfold Registered
    rw [get_eq_ok hget]
    rfl
  · split at hexists
    · cases hexists
    · cases hexists

end ComplyTime.Trust
