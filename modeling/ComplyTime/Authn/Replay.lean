import ComplyTime.Authn.SignedTokens
import Mathlib.Algebra.Order.Ring.Int
import Mathlib.Data.List.Nodup
import Mathlib.Tactic.GCongr
import Mathlib.Tactic.Ring

/-!
# Replay protection of scanner tokens

Any number of gateways authenticate scanner tokens against one `jti-replay`
bucket.  An attempt that passes the checks of its issuer claims the identifier
of its token, and the claim holds for fifteen minutes.  A token is good for
less than that: it expires ten minutes after it was issued at the latest, and
the skew adds thirty seconds on either side.

The bucket is keyed by the identifier alone.  What an attempt finds there
depends on the earlier attempts that carry the same identifier, whoever issued
their tokens.
-/

namespace ComplyTime.Authn

open Trust

/-- One call of `StaticJWKIssuer.Authenticate` by some gateway, at one
instant. -/
structure Attempt where
  issuer : StaticJWKIssuer
  audience : String
  tokenString : String
  time : Time
  /-- What goes wrong at the bucket. -/
  fault : Option CreateFault

/-- Parsing enforces `iat` and `exp` up to the skew. -/
def Library.EnforcesTimes {KeySet : Type*} (library : Library KeySet) :
    Prop :=
  ∀ keys options tokenString token,
    library.parse keys options tokenString = .ok token →
      (∀ issuedAt, token.issuedAt = some issuedAt →
        issuedAt ≤ options.now + options.acceptableSkew) ∧
      ∀ expiry, token.expiration = some expiry →
        options.now < expiry + options.acceptableSkew

variable {KeySet Document : Type*} (library : Library KeySet)

def Attempt.outcome (attempt : Attempt) (store : TrustStore Document) :
    Except GoError PublisherIdentity × TrustStore Document :=
  attempt.issuer.authenticate library attempt.time true store attempt.fault
    attempt.tokenString attempt.audience

/-- The attempts of a schedule that succeed. -/
def accepted : TrustStore Document → List Attempt → List Attempt
  | _, [] => []
  | store, attempt :: attempts =>
    let rest := accepted (attempt.outcome library store).2 attempts
    if (attempt.outcome library store).1.isOk then attempt :: rest else rest

/-- The store after a history of attempts. -/
def after (store : TrustStore Document) (history : List Attempt) :
    TrustStore Document :=
  history.foldl (fun current attempt => (attempt.outcome library current).2)
    store

/-- The history without the attempts at an issuer. -/
def without (issuerURL : String) (history : List Attempt) : List Attempt :=
  history.filter fun past => past.issuer.url ≠ issuerURL

/-- The token names the identifier. -/
def Carries (tokenString jti : String) : Prop :=
  ∃ token, library.parseInsecure tokenString = .ok token ∧
    token.jwtID = some jti

variable {library}

section Attempts

variable {attempt : Attempt} {store : TrustStore Document}

variable {token : Token} {jti : String}

section

variable (hchecked : attempt.issuer.check library attempt.time
    attempt.tokenString attempt.audience = .ok (token, jti))

include hchecked

/-- The store after an attempt on a token that has passed the other checks. -/
theorem outcome_of_check :
    attempt.outcome library store =
      match claimJTI store attempt.fault attempt.time jti with
      | (.error err, claimed) =>
        (.error (.within "jti replay check failed" err), claimed)
      | (.ok (), claimed) =>
        ((requireSub "static JWK token missing sub claim" token).map
          fun sub => ⟨attempt.issuer.url, sub⟩, claimed) := by
  rw [Attempt.outcome, StaticJWKIssuer.authenticate, hchecked]
  rfl

theorem snd_outcome_of_check :
    (attempt.outcome library store).2 =
      (claimJTI store attempt.fault attempt.time jti).2 := by
  rw [outcome_of_check hchecked]
  split <;> rename_i hclaim <;> rw [hclaim]

end

/-- An attempt fails and changes nothing, or claims the identifier of a token
that has passed every check before. -/
theorem outcome_cases (library : Library KeySet) (attempt : Attempt)
    (store : TrustStore Document) :
    ((attempt.outcome library store).2 = store ∧
      ∃ err, (attempt.outcome library store).1 = .error err) ∨
    ∃ token jti, attempt.issuer.check library attempt.time attempt.tokenString
        attempt.audience = .ok (token, jti) ∧
      store.claimed attempt.time jti = false ∧
      (attempt.outcome library store).2 = store.claim attempt.time jti := by
  cases hchecked : attempt.issuer.check library attempt.time
      attempt.tokenString attempt.audience with
  | error err =>
    left
    rw [Attempt.outcome, StaticJWKIssuer.authenticate, hchecked]
    exact ⟨rfl, err, rfl⟩
  | ok checked =>
    obtain ⟨token, jti⟩ := checked
    have hnext : (attempt.outcome library store).2 = _ :=
      snd_outcome_of_check hchecked
    rcases claimJTI_cases store attempt.fault attempt.time jti with
      ⟨⟨err, herr⟩, hkept⟩ | ⟨hfree, hclaimed⟩
    · refine .inl ⟨hnext.trans hkept, ?_⟩
      rw [outcome_of_check hchecked]
      split
      · exact ⟨_, rfl⟩
      · rename_i hclaim
        rw [hclaim] at herr
        cases herr
    · exact .inr ⟨token, jti, rfl, hfree, hnext.trans hclaimed⟩

/-- A successful attempt has claimed. -/
theorem claimed_of_accepted
    (haccepted : (attempt.outcome library store).1.isOk = true) :
    ∃ token jti, attempt.issuer.check library attempt.time attempt.tokenString
        attempt.audience = .ok (token, jti) ∧
      store.claimed attempt.time jti = false ∧
      (attempt.outcome library store).2 = store.claim attempt.time jti := by
  apply (outcome_cases library attempt store).resolve_left
  rintro ⟨-, err, herr⟩
  rw [herr] at haccepted
  cases haccepted

theorem token_of_check (hagrees : library.Agrees)
    (hchecked : attempt.issuer.check library attempt.time attempt.tokenString
      attempt.audience = .ok (token, jti)) :
    library.parseInsecure attempt.tokenString = .ok token ∧
      token.jwtID = some jti := by
  obtain ⟨⟨keys, hparse⟩, -, hjti⟩ := check_eq_ok library attempt.time hchecked
  obtain ⟨issuedAt, expiry, -, -, -, hjwtID⟩ := requireJTI_eq_ok library hjti
  exact ⟨hagrees _ _ _ _ hparse, hjwtID⟩

theorem jtiKV_outcome_of_not_carries (hagrees : library.Agrees)
    (hcarries : ¬ Carries library attempt.tokenString jti) :
    (attempt.outcome library store).2.jtiKV jti = store.jtiKV jti := by
  cases outcome_cases library attempt store with
  | inl hfailed => rw [hfailed.1]
  | inr hclaimed =>
    obtain ⟨token, claimed, hchecked, hfree, hnext⟩ := hclaimed
    obtain ⟨hread, hjwtID⟩ := token_of_check hagrees hchecked
    have hne : jti ≠ claimed := by
      rintro rfl
      exact hcarries ⟨token, hread, hjwtID⟩
    rw [hnext, claim_of_not_claimed hfree]
    exact Function.update_of_ne hne _ _

end Attempts

/-! ## Accepted once -/

/-- The identifier of the token was claimed so late that the claim outlives the
token. -/
def Spent (library : Library KeySet) (store : TrustStore Document)
    (tokenString : String) : Prop :=
  ∃ token jti expiry claimedAt,
    library.parseInsecure tokenString = .ok token ∧
    token.jwtID = some jti ∧ token.expiration = some expiry ∧
    store.jtiKV jti = some claimedAt ∧
    expiry + 30 * second ≤ claimedAt + jtiReplayTTL

section AcceptedOnce

variable {attempt : Attempt} {store : TrustStore Document}
  {tokenString : String}

/-- Between `now` and the last instant at which the token is good lie eleven
minutes at most. -/
theorem expiry_le {now issuedAt expiry : Time}
    (hissued : issuedAt ≤ now + 30 * second)
    (hlifetime : expiry ≤ issuedAt + maximumLifetime) :
    expiry + 30 * second ≤ now + jtiReplayTTL := by
  calc expiry + 30 * second
      ≤ issuedAt + maximumLifetime + 30 * second := by gcongr
    _ ≤ now + 30 * second + maximumLifetime + 30 * second := by gcongr
    _ = now + 11 * minute := by
        unfold maximumLifetime minute
        ring
    _ ≤ now + jtiReplayTTL := by
        gcongr
        decide

theorem spent_of_accepted (hagrees : library.Agrees)
    (htimes : library.EnforcesTimes)
    (haccepted : (attempt.outcome library store).1.isOk = true) :
    Spent library (attempt.outcome library store).2 attempt.tokenString := by
  obtain ⟨token, jti, hchecked, hfree, hnext⟩ := claimed_of_accepted haccepted
  obtain ⟨hread, -⟩ := token_of_check hagrees hchecked
  obtain ⟨⟨keys, hparse⟩, -, hjti⟩ := check_eq_ok library attempt.time hchecked
  obtain ⟨issuedAt, expiry, hissued, hexpiry, hlifetime, hjwtID⟩ :=
    requireJTI_eq_ok library hjti
  have hearly := (htimes _ _ _ _ hparse).1 issuedAt hissued
  refine ⟨token, jti, expiry, attempt.time, hread, hjwtID, hexpiry, ?_,
    expiry_le hearly hlifetime⟩
  rw [hnext, claim_of_not_claimed hfree]
  exact Function.update_self _ _ _

theorem Spent.outcome (hspent : Spent library store tokenString)
    (attempt : Attempt) :
    Spent library (attempt.outcome library store).2 tokenString := by
  obtain ⟨token, jti, expiry, claimedAt, hread, hjwtID, hexpiry, hclaimed,
    houtlives⟩ := hspent
  cases outcome_cases library attempt store with
  | inl hfailed =>
    rw [hfailed.1]
    exact ⟨token, jti, expiry, claimedAt, hread, hjwtID, hexpiry, hclaimed,
      houtlives⟩
  | inr hother =>
    obtain ⟨-, other, -, hfree, hnext⟩ := hother
    rw [claim_of_not_claimed hfree] at hnext
    by_cases hsame : jti = other
    · subst hsame
      have hlater : claimedAt + jtiReplayTTL ≤ attempt.time :=
        claimed_eq_false_iff.mp hfree claimedAt hclaimed
      refine ⟨token, jti, expiry, attempt.time, hread, hjwtID, hexpiry, ?_, ?_⟩
      · rw [hnext]
        exact Function.update_self _ _ _
      · calc expiry + 30 * second
            ≤ claimedAt + jtiReplayTTL := houtlives
          _ ≤ attempt.time := hlater
          _ ≤ attempt.time + jtiReplayTTL := le_add_of_nonneg_right (by decide)
    · refine ⟨token, jti, expiry, claimedAt, hread, hjwtID, hexpiry, ?_,
        houtlives⟩
      rw [hnext]
      exact (Function.update_of_ne hsame _ _).trans hclaimed

section

variable (hagrees : library.Agrees) (htimes : library.EnforcesTimes)

include hagrees htimes

theorem Spent.not_accepted (hspent : Spent library store attempt.tokenString) :
    (attempt.outcome library store).1.isOk ≠ true := by
  intro haccepted
  obtain ⟨token, jti, expiry, claimedAt, hread, hjwtID, hexpiry, hclaimed,
    houtlives⟩ := hspent
  obtain ⟨checked, found, hchecked, hfree, -⟩ := claimed_of_accepted haccepted
  obtain ⟨hagain, hfound⟩ := token_of_check hagrees hchecked
  obtain ⟨⟨keys, hparse⟩, -, -⟩ := check_eq_ok library attempt.time hchecked
  rw [hread] at hagain
  obtain rfl := Except.ok.inj hagain
  rw [hjwtID] at hfound
  obtain rfl := Option.some.inj hfound
  have hgood : attempt.time < expiry + 30 * second :=
    (htimes _ _ _ _ hparse).2 expiry hexpiry
  have hexpired := claimed_eq_false_iff.mp hfree claimedAt hclaimed
  exact absurd (hgood.trans_le houtlives) (not_lt.mpr hexpired)

theorem not_mem_accepted_of_spent (schedule : List Attempt)
    (hspent : Spent library store tokenString) :
    ∀ attempt ∈ accepted library store schedule,
      attempt.tokenString ≠ tokenString := by
  induction schedule generalizing store with
  | nil => simp [accepted]
  | cons first schedule ih =>
    have hlater := ih (hspent.outcome first)
    intro attempt hmem
    unfold accepted at hmem
    by_cases hfirst : (first.outcome library store).1.isOk = true
    · rw [if_pos hfirst] at hmem
      cases List.mem_cons.mp hmem with
      | inl hhead =>
        subst hhead
        rintro rfl
        exact hspent.not_accepted hagrees htimes hfirst
      | inr hmem => exact hlater attempt hmem
    · rw [if_neg hfirst] at hmem
      exact hlater attempt hmem

theorem nodup_accepted (store : TrustStore Document) (schedule : List Attempt) :
    ((accepted library store schedule).map Attempt.tokenString).Nodup := by
  induction schedule generalizing store with
  | nil => exact List.nodup_nil
  | cons first schedule ih =>
    unfold accepted
    by_cases hfirst : (first.outcome library store).1.isOk = true
    · rw [if_pos hfirst, List.map_cons, List.nodup_cons]
      refine ⟨?_, ih _⟩
      rw [List.mem_map]
      rintro ⟨attempt, hmem, hsame⟩
      exact not_mem_accepted_of_spent hagrees htimes schedule
        (spent_of_accepted hagrees htimes hfirst) attempt hmem hsame
    · rw [if_neg hfirst]
      exact ih _

end

/-- However attempts are scheduled over the gateways that share the bucket, at
most one of those on a token succeeds. -/
theorem token_accepted_once (hagrees : library.Agrees)
    (htimes : library.EnforcesTimes) (store : TrustStore Document)
    (schedule : List Attempt) (tokenString : String) :
    (accepted library store schedule).countP
      (fun attempt => attempt.tokenString = tokenString) ≤ 1 := by
  have hcount := List.nodup_iff_count_le_one.mp
    (nodup_accepted hagrees htimes store schedule) tokenString
  rw [List.count, List.countP_map] at hcount
  convert hcount using 2
  funext attempt
  exact (beq_eq_decide attempt.tokenString tokenString).symm

end AcceptedOnce

/-! ## Two scanners -/

/-- A token of ten minutes, issued thirty seconds ahead of the clock. -/
def scanToken (issuer jti : String) : Token where
  issuer := some issuer
  subject := some issuer
  issuedAt := some (30 * second)
  expiration := some (30 * second + 10 * minute)
  jwtID := some jti
  claims := .ok []

def trivyFirst : String := compactText
  ("eyJpc3MiOiJ0cml2eSIsInN1YiI6InRyaXZ5IiwiYXVkIjoiZ2F0ZXdheSIsImlhdCI6MzAs" ++
    "ImV4cCI6NjMwLCJqdGkiOiJydW4tMSJ9")

def trivySecond : String := compactText
  ("eyJpc3MiOiJ0cml2eSIsInN1YiI6InRyaXZ5IiwiYXVkIjoiZ2F0ZXdheSIsImlhdCI6MzAs" ++
    "ImV4cCI6NjMwLCJqdGkiOiJydW4tMiJ9")

def grypeFirst : String := compactText
  ("eyJpc3MiOiJncnlwZSIsInN1YiI6ImdyeXBlIiwiYXVkIjoiZ2F0ZXdheSIsImlhdCI6MzAs" ++
    "ImV4cCI6NjMwLCJqdGkiOiJydW4tMSJ9")

/-- Two scanners that number their runs alike. -/
def scanLibrary : Library Bytes :=
  signedLibrary [⟨trivyFirst, scanToken "trivy" "run-1", [1]⟩,
    ⟨trivySecond, scanToken "trivy" "run-2", [1]⟩,
    ⟨grypeFirst, scanToken "grype" "run-1", [2]⟩]

theorem scanLibrary_agrees : scanLibrary.Agrees :=
  signedLibrary_agrees _

theorem scanLibrary_enforcesTimes : scanLibrary.EnforcesTimes :=
  fun _ _ _ _ hparse => (signedLibrary_parse hparse).2

def trivyAttempt (tokenString : String) (time : Time) : Attempt where
  issuer := ⟨"trivy", [1], 60 * minute⟩
  audience := "gateway"
  tokenString := tokenString
  time := time
  fault := none

def grypeAttempt (time : Time) : Attempt where
  issuer := ⟨"grype", [2], 60 * minute⟩
  audience := "gateway"
  tokenString := grypeFirst
  time := time
  fault := none

/-- Tried again in the last second in which the token is good and after its
claim is gone, the token is not accepted again. -/
def scanSchedule : List Attempt :=
  [trivyAttempt trivyFirst 0, trivyAttempt trivyFirst (11 * minute - second),
   trivyAttempt trivyFirst (15 * minute)]

theorem scan_accepted_once :
    (accepted scanLibrary (emptyTrustStore : TrustStore Unit)
      scanSchedule).map Attempt.time = [0] ∧
    (accepted scanLibrary (emptyTrustStore : TrustStore Unit)
      scanSchedule).countP
        (fun attempt => attempt.tokenString = trivyFirst) ≤ 1 := by
  constructor
  · rfl
  · exact token_accepted_once scanLibrary_agrees scanLibrary_enforcesTimes
      emptyTrustStore scanSchedule trivyFirst

/-! ## Issuers that share the bucket -/

section Issuers

variable {store other : TrustStore Document} {jti : String}

/-- An attempt ends the same way on stores that agree on the identifier its
token carries. -/
theorem outcome_congr (hagrees : library.Agrees) (attempt : Attempt)
    (hsame : ∀ jti, Carries library attempt.tokenString jti →
      store.jtiKV jti = other.jtiKV jti) :
    (attempt.outcome library store).1 = (attempt.outcome library other).1 := by
  cases hchecked : attempt.issuer.check library attempt.time
      attempt.tokenString attempt.audience with
  | error err => simp [Attempt.outcome, StaticJWKIssuer.authenticate, hchecked]
  | ok checked =>
    obtain ⟨token, jti⟩ := checked
    have hcarries : Carries library attempt.tokenString jti :=
      ⟨token, token_of_check hagrees hchecked⟩
    have hresult := (claimJTI_congr (hsame jti hcarries) attempt.fault
      attempt.time).1
    rw [outcome_of_check hchecked, outcome_of_check hchecked]
    split <;> split <;> simp_all

theorem jtiKV_outcome_congr (hagrees : library.Agrees) (attempt : Attempt)
    (hsame : store.jtiKV jti = other.jtiKV jti) :
    (attempt.outcome library store).2.jtiKV jti =
      (attempt.outcome library other).2.jtiKV jti := by
  by_cases hcarries : Carries library attempt.tokenString jti
  · cases hchecked : attempt.issuer.check library attempt.time
        attempt.tokenString attempt.audience with
    | error err =>
      simp [Attempt.outcome, StaticJWKIssuer.authenticate, hchecked, hsame]
    | ok checked =>
      obtain ⟨token, found⟩ := checked
      obtain ⟨hread, hfound⟩ := token_of_check hagrees hchecked
      obtain ⟨carried, hcarried, hjti⟩ := hcarries
      rw [hread] at hcarried
      obtain rfl := Except.ok.inj hcarried
      rw [hjti] at hfound
      obtain rfl := Option.some.inj hfound
      rw [snd_outcome_of_check hchecked, snd_outcome_of_check hchecked]
      exact (claimJTI_congr hsame attempt.fault attempt.time).2
  · rw [jtiKV_outcome_of_not_carries hagrees hcarries,
      jtiKV_outcome_of_not_carries hagrees hcarries, hsame]

/-- An identifier that the tokens of some issuer never carry is left as it
would be without them. -/
theorem jtiKV_after_filter (hagrees : library.Agrees) (issuerURL : String)
    (history : List Attempt)
    (hforeign : ∀ past ∈ history, past.issuer.url = issuerURL →
      ¬ Carries library past.tokenString jti)
    (hsame : store.jtiKV jti = other.jtiKV jti) :
    (after library store history).jtiKV jti =
      (after library other (without issuerURL history)).jtiKV jti := by
  induction history generalizing store other with
  | nil => exact hsame
  | cons past history ih =>
    have hrest : ∀ later ∈ history, later.issuer.url = issuerURL →
        ¬ Carries library later.tokenString jti := by
      intro later hlater
      exact hforeign later (List.mem_cons_of_mem past hlater)
    by_cases hissuer : past.issuer.url = issuerURL
    · have hdropped : without issuerURL (past :: history) =
          without issuerURL history := by
        simp [without, hissuer]
      rw [hdropped]
      apply ih hrest
      rw [← hsame]
      exact jtiKV_outcome_of_not_carries hagrees
        (hforeign past List.mem_cons_self hissuer)
    · have hkept : without issuerURL (past :: history) =
          past :: without issuerURL history := by
        simp [without, hissuer]
      rw [hkept]
      exact ih hrest (jtiKV_outcome_congr hagrees past hsame)

/-- While no token of another issuer carries the identifier of the token at
hand, its authentication ends as if the other issuer's tokens had never been
presented. -/
theorem issuers_uncoupled (hagrees : library.Agrees)
    (store : TrustStore Document) (history : List Attempt)
    (attempt : Attempt) (issuerURL : String)
    (hforeign : ∀ past ∈ history, past.issuer.url = issuerURL →
      ∀ jti, Carries library attempt.tokenString jti →
        ¬ Carries library past.tokenString jti) :
    (attempt.outcome library (after library store history)).1 =
      (attempt.outcome library
        (after library store (without issuerURL history))).1 := by
  apply outcome_congr hagrees
  intro jti hcarries
  apply jtiKV_after_filter hagrees issuerURL history
  · intro past hpast hissuer
    exact hforeign past hpast hissuer jti hcarries
  · rfl

end Issuers

theorem grype_uncoupled_from_trivy :
    ((grypeAttempt second).outcome scanLibrary (after scanLibrary
      (emptyTrustStore : TrustStore Unit) [trivyAttempt trivySecond 0])).1 =
    ((grypeAttempt second).outcome scanLibrary (after scanLibrary
      (emptyTrustStore : TrustStore Unit)
      (without "trivy" [trivyAttempt trivySecond 0]))).1 := by
  apply issuers_uncoupled scanLibrary_agrees
  rintro past hpast - jti ⟨token, htoken, hjti⟩ ⟨pastToken, hpastToken, hpastJTI⟩
  obtain rfl := List.mem_singleton.mp hpast
  obtain rfl := Except.ok.inj htoken
  obtain rfl := Except.ok.inj hpastToken
  rw [← hjti] at hpastJTI
  exact absurd hpastJTI (by decide)

/-- The first run of one scanner keeps that of another out. -/
theorem grype_coupled_to_trivy :
    ((grypeAttempt second).outcome scanLibrary (after scanLibrary
      (emptyTrustStore : TrustStore Unit)
      [trivyAttempt trivyFirst 0])).1.isOk = false ∧
    ((grypeAttempt second).outcome scanLibrary (after scanLibrary
      (emptyTrustStore : TrustStore Unit)
      (without "trivy" [trivyAttempt trivyFirst 0]))).1 =
        .ok ⟨"grype", "grype"⟩ := by
  constructor
  · rfl
  · rfl

end ComplyTime.Authn
