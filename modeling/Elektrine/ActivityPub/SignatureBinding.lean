import Elektrine.ActivityPub.HttpSignatures
import Elektrine.Library.Separated

/-!
# What a signature binds

The text that was verified says which request it is for, when it was made and what its body
hashes to, as far as the list of signed headers goes; it can be read back line by line.
-/

namespace Elektrine.ActivityPub

open Elektrine.Library

variable (environment : Environment)

def SignedConn.names (request : SignedConn) : List String :=
  parseSignedHeaders request.headersString

def SignedConn.lines (request : SignedConn) : List String :=
  signingLines request.conn request.params request.names

/-- A line with a creation time or a date that is neither too old nor too far ahead. -/
def SignedTime (now : Int) (lines : List String) : Prop :=
  ∃ value time, (signingLine "(created)" value ∈ lines ∧ parseUnixTimestamp value = .ok time ∨
      signingLine "date" value ∈ lines ∧ environment.httpDate value = some time) ∧
    now - time ≤ environment.signatureMaxAgeSeconds ∧
    time - now ≤ environment.signatureClockSkewSeconds

/-- A line with an expiry time that is not long past. -/
def SignedExpiry (now : Int) (lines : List String) : Prop :=
  ∃ value time, signingLine "(expires)" value ∈ lines ∧ parseUnixTimestamp value = .ok time ∧
    now - time ≤ environment.signatureClockSkewSeconds

/-- A line with a digest header whose entry for SHA-256 is the hash of the body. -/
def SignedDigest (conn : Conn) (lines : List String) : Prop :=
  ∃ header body, signingLine "digest" header ∈ lines ∧ conn.rawBody = some body ∧
    extractSha256Digest header = some (encode64 (environment.sha256 body))

/-- The expiry time is signed and the creation time is not. -/
def OnlyExpires (names : List String) : Prop :=
  "(expires)" ∈ names ∧ "(created)" ∉ names

structure BindsRequest (now : Int) (request : SignedConn) (signingKey : SigningKey) : Prop where
  verified : environment.verify signingKey.publicKey (joinLines request.lines)
    request.signature = true
  target : signingLine "(request-target)" request.conn.requestTarget ∈ request.lines
  host : signingLine "host" request.conn.signedHost ∈ request.lines
  time : ¬ OnlyExpires request.names → SignedTime environment now request.lines
  expiry : OnlyExpires request.names → SignedExpiry environment now request.lines
  digest : requestBodyExpected request.conn = true ∨ "digest" ∈ request.names →
    SignedDigest environment request.conn request.lines

/-- The requests are the same, up to the case of the method and, where no digest is signed,
to the body. -/
structure AgreeSigned (first second : SignedConn) : Prop where
  method : downcase first.conn.method = downcase second.conn.method
  path : first.conn.requestPath = second.conn.requestPath
  query : first.conn.queryString = second.conn.queryString
  host : first.conn.signedHost = second.conn.signedHost
  body : requestBodyExpected first.conn = true ∨ "digest" ∈ first.names →
    first.conn.rawBody = second.conn.rawBody

/-- Under one key a signature verifies one text. -/
def VerifiesOne : Prop :=
  ∀ publicKey signature text other, environment.verify publicKey text signature = true →
    environment.verify publicKey other signature = true → text = other

variable {environment} {now : Int} {request : SignedConn} {signingKey : SigningKey}

theorem buildSigningString_ok {conn : Conn} {names : List String} {params : SignatureParams}
    {text : String} (built : buildSigningString conn names params = .ok text) :
    text = joinLines (signingLines conn params names) ∧
      ∀ name ∈ names, ∃ value, getHeaderValue conn name params = some value := by
  unfold buildSigningString at built
  simp only at built
  split_ifs at built with complete
  cases built
  refine ⟨rfl, ?_⟩
  intro name member
  have present := List.filter_eq_nil_iff.mp complete name member
  rw [Option.isNone_iff_eq_none] at present
  exact Option.ne_none_iff_exists'.mp present

theorem mem_signingLines {conn : Conn} {names : List String} {params : SignatureParams}
    {name value : String} (member : name ∈ names)
    (read : getHeaderValue conn name params = some value) :
    signingLine name value ∈ signingLines conn params names := by
  apply List.mem_filterMap.mpr
  exact ⟨name, member, by rw [read, Option.map_some]⟩

theorem signatureParamValue_eq_some {value : Option String} {text : String}
    (read : signatureParamValue value = some text) : value = some text := by
  unfold signatureParamValue at read
  cases value with
  | none => cases read
  | some given =>
      simp only at read
      split_ifs at read
      exact read

theorem parseOptionalUnixTimestamp_some {text : String} {parsed : Option Int}
    (read : parseOptionalUnixTimestamp (some text) = .ok parsed) :
    ∃ time, parseUnixTimestamp text = .ok time ∧ parsed = some time := by
  rw [parseOptionalUnixTimestamp] at read
  cases result : parseUnixTimestamp text with
  | error reason =>
      rw [result] at read
      cases read
  | ok time =>
      rw [result] at read
      cases read
      exact ⟨time, rfl, rfl⟩

theorem validateCreatedExpires_ok {params : SignatureParams}
    (passed : validateCreatedExpires environment now params = .ok ()) :
    (∀ text, params.created = some text → ∃ time, parseUnixTimestamp text = .ok time ∧
      now - time ≤ environment.signatureMaxAgeSeconds ∧
      time - now ≤ environment.signatureClockSkewSeconds) ∧
    ∀ text, params.expires = some text → ∃ time, parseUnixTimestamp text = .ok time ∧
      now - time ≤ environment.signatureClockSkewSeconds := by
  unfold validateCreatedExpires at passed
  cases created : parseOptionalUnixTimestamp params.created with
  | error reason =>
      rw [created] at passed
      cases passed
  | ok createdAt =>
      cases expires : parseOptionalUnixTimestamp params.expires with
      | error reason =>
          rw [created, expires] at passed
          cases passed
      | ok expiresAt =>
          rw [created, expires] at passed
          change (validateCreatedTimestamp environment now createdAt >>= fun _ =>
            validateExpiresTimestamp environment now expiresAt >>= fun _ =>
              validateCreatedBeforeExpires createdAt expiresAt) = .ok () at passed
          rw [unit_bind_ok_iff, unit_bind_ok_iff, validateCreatedTimestamp_ok_iff,
            validateExpiresTimestamp_ok_iff] at passed
          obtain ⟨young, alive, _⟩ := passed
          constructor
          · intro text given
            rw [given] at created
            obtain ⟨time, parsed, same⟩ := parseOptionalUnixTimestamp_some created
            have bounds := young time same
            exact ⟨time, parsed, by omega, by omega⟩
          · intro text given
            rw [given] at expires
            obtain ⟨time, parsed, same⟩ := parseOptionalUnixTimestamp_some expires
            have bounds := alive time same
            exact ⟨time, parsed, by omega⟩

theorem signedTime_of_created {text : String}
    (timely : ∃ time, parseUnixTimestamp text = .ok time ∧
      now - time ≤ environment.signatureMaxAgeSeconds ∧
      time - now ≤ environment.signatureClockSkewSeconds)
    (line : signingLine "(created)" text ∈ request.lines) :
    SignedTime environment now request.lines := by
  obtain ⟨time, parsed, young, soon⟩ := timely
  exact ⟨text, time, .inl ⟨line, parsed⟩, young, soon⟩

theorem signedTime_of_date
    (passed : validateDateHeader environment now request.conn = .ok ())
    (line : ∀ value, (request.conn.getReqHeader "date").head? = some value →
      signingLine "date" value ∈ request.lines) :
    SignedTime environment now request.lines := by
  unfold validateDateHeader at passed
  cases given : (request.conn.getReqHeader "date").head? with
  | none =>
      rw [given] at passed
      cases passed
  | some value =>
      simp only [given] at passed
      cases read : environment.httpDate value with
      | none =>
          rw [read] at passed
          cases passed
      | some time =>
          simp only [read] at passed
          split_ifs at passed with timely
          exact ⟨value, time, .inr ⟨line value given, read⟩, timely.1, by omega⟩

theorem signedDigest_of_valid
    (passed : validateDigestHeader environment request.conn = .ok ())
    (line : ∀ value, (request.conn.getReqHeader "digest").head? = some value →
      signingLine "digest" value ∈ request.lines) :
    SignedDigest environment request.conn request.lines := by
  unfold validateDigestHeader at passed
  cases given : (request.conn.getReqHeader "digest").head? with
  | none =>
      rw [given] at passed
      cases passed
  | some header =>
      simp only [given] at passed
      cases found : extractSha256Digest header with
      | none =>
          rw [found] at passed
          cases passed
      | some digest =>
          cases read : request.conn.rawBody with
          | none =>
              rw [found, read] at passed
              cases passed
          | some body =>
              simp only [found, read] at passed
              split_ifs at passed with same
              exact ⟨header, body, line header given, read, found.trans (congrArg some same)⟩

theorem validateDigest_of_signed {conn : Conn} {names : List String}
    (passed : validateRequestDigest environment conn names = .ok ())
    (expected : requestBodyExpected conn = true ∨ "digest" ∈ names) :
    "digest" ∈ names ∧ validateDigestHeader environment conn = .ok () := by
  unfold validateRequestDigest at passed
  rw [if_pos expected] at passed
  split_ifs at passed with signed
  exact ⟨signed, passed⟩

theorem Accepted.binds {replays after : List RequestReplay}
    (accepted : Accepted environment now request signingKey replays after) :
    BindsRequest environment now request signingKey := by
  obtain ⟨text, built, verified⟩ := accepted.verified
  obtain ⟨written, given⟩ := buildSigningString_ok built
  obtain ⟨⟨target, host⟩, timing, digest⟩ :=
    validateSignatureConstraints_ok_iff.mp accepted.constraints
  have line : ∀ name value, name ∈ request.names →
      getHeaderValue request.conn name request.params = some value →
      signingLine name value ∈ request.lines := fun _ _ => mem_signingLines
  rw [written] at verified
  refine ⟨verified, line _ _ target rfl, line _ _ host rfl, ?_, ?_, ?_⟩
  · intro both
    unfold validateSignatureTiming at timing
    split_ifs at timing with stamped dated
    · have created : "(created)" ∈ request.names := by
        rcases stamped with created | expires
        · exact created
        · by_contra absent
          exact both ⟨expires, absent⟩
      obtain ⟨text, read⟩ := given _ created
      exact signedTime_of_created
        ((validateCreatedExpires_ok timing).1 text (signatureParamValue_eq_some read))
        (line _ text created read)
    · exact signedTime_of_date timing fun value read => line _ value dated read
  · intro ⟨expires, _⟩
    unfold validateSignatureTiming at timing
    rw [if_pos (.inr expires)] at timing
    obtain ⟨text, read⟩ := given _ expires
    obtain ⟨time, parsed, alive⟩ :=
      (validateCreatedExpires_ok timing).2 text (signatureParamValue_eq_some read)
    exact ⟨text, time, line _ text expires read, parsed, alive⟩
  · intro expected
    obtain ⟨signed, valid⟩ := validateDigest_of_signed digest expected
    exact signedDigest_of_valid valid fun value read => line _ value signed read

theorem not_mem_downcase {text : String} {character : Char} (low : character.toNat < 65)
    (outside : character ∉ text.toList) : character ∉ (downcase text).toList := by
  intro member
  rw [downcase, String.toList_ofList] at member
  obtain ⟨other, inside, lowered⟩ := List.mem_map.mp member
  have codes := congrArg Char.toNat lowered
  rw [toNat_toLower] at codes
  split_ifs at codes
  · omega
  · exact outside (Char.toNat_inj.mp codes ▸ inside)

theorem mem_parseSignedHeaders {headersString name : String} (single : OneLine headersString)
    (member : name ∈ parseSignedHeaders headersString) : ' ' ∉ name.toList ∧ OneLine name := by
  obtain ⟨piece, found, same⟩ := List.mem_map.mp member
  have spaceless : ' ' ∉ piece := not_mem_of_mem_pieces found
  rw [← same]
  constructor
  · apply not_mem_downcase (by decide)
    rw [String.toList_ofList]
    exact spaceless
  · apply not_mem_downcase (by decide)
    rw [String.toList_ofList]
    intro newline
    exact single ((sublist_of_mem_pieces found).subset newline)

theorem oneLine_append {front back : String} (first : OneLine front) (second : OneLine back) :
    OneLine (front ++ back) := by
  unfold OneLine at *
  rw [String.toList_append]
  intro member
  rcases List.mem_append.mp member with inside | inside
  · exact first inside
  · exact second inside

theorem head_oneLine (conn : Conn) {name value : String}
    (read : (conn.getReqHeader name).head? = some value) : OneLine value := by
  have member : value ∈ conn.getReqHeader name := List.mem_of_mem_head? read
  obtain ⟨header, inside, same⟩ := List.mem_map.mp member
  rw [← same]
  exact conn.single.2.2.2.2 header (List.mem_filter.mp inside).1

theorem getHeaderValue_oneLine (request : SignedConn) {name value : String}
    (read : getHeaderValue request.conn name request.params = some value) : OneLine value := by
  obtain ⟨method, path, query, host, _⟩ := request.conn.single
  unfold getHeaderValue at read
  split_ifs at read
  · cases read
    unfold Conn.requestTarget
    apply oneLine_append
    · apply oneLine_append _ path
      exact oneLine_append (not_mem_downcase (by decide) method) (by decide)
    · split_ifs
      · decide
      · exact oneLine_append (by decide) query
  · exact request.single.2.1 value (signatureParamValue_eq_some read)
  · exact request.single.2.2 value (signatureParamValue_eq_some read)
  · cases read
    unfold Conn.signedHost
    cases given : (request.conn.getReqHeader "host").head? with
    | none => exact host
    | some value => exact head_oneLine request.conn given
  · exact head_oneLine request.conn read

theorem signingLine_inj {name other value last : String} (first : ' ' ∉ name.toList)
    (second : ' ' ∉ other.toList) (same : signingLine name value = signingLine other last) :
    name = other ∧ value = last := by
  have texts := congrArg String.toList same
  simp only [signingLine, String.toList_append] at texts
  have cut : (name.toList ++ [':']) ++ ' ' :: value.toList =
      (other.toList ++ [':']) ++ ' ' :: last.toList := by
    simpa using texts
  have counts : (name.toList ++ [':']).count ' ' = (other.toList ++ [':']).count ' ' := by
    rw [List.count_append, List.count_append, List.count_eq_zero.mpr first,
      List.count_eq_zero.mpr second]
  obtain ⟨names, values⟩ := append_separator_inj counts cut
  exact ⟨String.toList_inj.mp (List.append_cancel_right names), String.toList_inj.mp values⟩

theorem signingLines_inj {read other : String → Option String} {names last : List String}
    (given : ∀ name ∈ names, ' ' ∉ name.toList ∧ ∃ value, read name = some value)
    (also : ∀ name ∈ last, ' ' ∉ name.toList ∧ ∃ value, other name = some value)
    (same : (names.filterMap fun name => (read name).map (signingLine name)) =
      last.filterMap fun name => (other name).map (signingLine name)) :
    names = last ∧ ∀ name ∈ names, read name = other name := by
  induction names generalizing last with
  | nil =>
      cases last with
      | nil => exact ⟨rfl, by simp⟩
      | cons head rest =>
          obtain ⟨value, present⟩ := (also head List.mem_cons_self).2
          simp [present] at same
  | cons name names ih =>
      obtain ⟨spaceless, value, present⟩ := given name List.mem_cons_self
      cases last with
      | nil => simp [present] at same
      | cons head rest =>
          obtain ⟨plain, text, found⟩ := also head List.mem_cons_self
          simp only [List.filterMap_cons, present, found, Option.map_some, List.cons.injEq] at same
          obtain ⟨sameName, sameValue⟩ := signingLine_inj spaceless plain same.1
          obtain ⟨rests, values⟩ := ih
            (fun each member => given each (List.mem_cons_of_mem _ member))
            (fun each member => also each (List.mem_cons_of_mem _ member)) same.2
          refine ⟨by rw [sameName, rests], ?_⟩
          intro each member
          rcases List.mem_cons.mp member with here | later
          · rw [here, present, sameName, found, sameValue]
          · exact values each later

theorem joinLines_inj {lines other : List String} (single : ∀ line ∈ lines, OneLine line)
    (also : ∀ line ∈ other, OneLine line) (filled : lines ≠ []) (present : other ≠ [])
    (same : joinLines lines = joinLines other) : lines = other := by
  have texts : ['\n'].intercalate (lines.map String.toList) =
      ['\n'].intercalate (other.map String.toList) := String.ofList_inj.mp same
  have cut : ∀ list : List String, list ≠ [] → (∀ line ∈ list, OneLine line) →
      (['\n'].intercalate (list.map String.toList)).splitOn '\n' = list.map String.toList := by
    intro list nonempty each
    apply List.splitOn_intercalate
    · intro part member
      obtain ⟨line, inside, written⟩ := List.mem_map.mp member
      rw [← written]
      exact each line inside
    · intro empty
      exact nonempty (List.map_eq_nil_iff.mp empty)
  have parts : lines.map String.toList = other.map String.toList := by
    rw [← cut lines filled single, texts, cut other present also]
  exact List.map_injective_iff.mpr (fun _ _ => String.toList_inj.mp) parts

theorem requestTarget_inj {first second : Conn}
    (same : first.requestTarget = second.requestTarget) :
    downcase first.method = downcase second.method ∧
      first.requestPath = second.requestPath ∧ first.queryString = second.queryString := by
  have texts := congrArg String.toList same
  unfold Conn.requestTarget at texts
  have cut : ∀ conn : Conn, ∃ tail : List Char,
      (downcase conn.method ++ " " ++ conn.requestPath ++
        if conn.queryString = "" then "" else "?" ++ conn.queryString).toList =
        (downcase conn.method).toList ++ ' ' :: (conn.requestPath.toList ++ tail) ∧
      (conn.queryString = "" ∧ tail = [] ∨ tail = '?' :: conn.queryString.toList) := by
    intro conn
    by_cases empty : conn.queryString = ""
    · exact ⟨[], by simp [empty], .inl ⟨empty, rfl⟩⟩
    · exact ⟨'?' :: conn.queryString.toList, by simp [empty], .inr rfl⟩
  obtain ⟨tail, written, query⟩ := cut first
  obtain ⟨rest, also, other⟩ := cut second
  rw [written, also] at texts
  have spaces : ∀ conn : Conn, (downcase conn.method).toList.count ' ' = 0 := fun conn =>
    List.count_eq_zero.mpr (not_mem_downcase (by decide) conn.apart.1)
  obtain ⟨methods, targets⟩ := append_separator_inj
    ((spaces first).trans (spaces second).symm) texts
  have marks : ∀ conn : Conn, conn.requestPath.toList.count '?' = 0 := fun conn =>
    List.count_eq_zero.mpr conn.apart.2
  refine ⟨String.toList_inj.mp methods, ?_⟩
  rcases query with ⟨noQuery, noTail⟩ | tailed
  · rcases other with ⟨alsoNone, alsoNil⟩ | otherTailed
    · rw [noTail, alsoNil, List.append_nil, List.append_nil] at targets
      exact ⟨String.toList_inj.mp targets, noQuery.trans alsoNone.symm⟩
    · -- a path without a question mark is not one with a query
      rw [noTail, otherTailed, List.append_nil] at targets
      have mark : '?' ∈ first.requestPath.toList := by
        rw [targets]
        simp
      exact absurd mark first.apart.2
  · rcases other with ⟨_, alsoNil⟩ | otherTailed
    · rw [tailed, alsoNil, List.append_nil] at targets
      have mark : '?' ∈ second.requestPath.toList := by
        rw [← targets]
        simp
      exact absurd mark second.apart.2
    · rw [tailed, otherTailed] at targets
      obtain ⟨paths, queries⟩ := append_separator_inj
        ((marks first).trans (marks second).symm) targets
      exact ⟨String.toList_inj.mp paths, String.toList_inj.mp queries⟩

variable {first second : SignedConn} {earlier later : Int} {signer : SigningKey}
  {replays after others rest : List RequestReplay}

theorem signingLines_oneLine (request : SignedConn) :
    ∀ line ∈ request.lines, OneLine line := by
  intro line member
  obtain ⟨name, inside, written⟩ := List.mem_filterMap.mp member
  obtain ⟨value, read, same⟩ := Option.map_eq_some_iff.mp written
  have named := (mem_parseSignedHeaders request.single.1 inside).2
  rw [← same]
  exact oneLine_append (oneLine_append named (by decide)) (getHeaderValue_oneLine request read)

theorem Accepted.lines_ne_nil (accepted : Accepted environment now request signingKey replays after) :
    request.lines ≠ [] := by
  intro empty
  have target := accepted.binds.target
  rw [empty] at target
  cases target

theorem Accepted.same_values
    (one : Accepted environment earlier first signingKey replays after)
    (other : Accepted environment later second signer others rest)
    (same : first.lines = second.lines) :
    first.names = second.names ∧ ∀ name ∈ first.names,
      getHeaderValue first.conn name first.params =
        getHeaderValue second.conn name second.params := by
  obtain ⟨_, built, _⟩ := one.verified
  obtain ⟨_, also, _⟩ := other.verified
  apply signingLines_inj _ _ same
  · intro name member
    exact ⟨(mem_parseSignedHeaders first.single.1 member).1,
      (buildSigningString_ok built).2 name member⟩
  · intro name member
    exact ⟨(mem_parseSignedHeaders second.single.1 member).1,
      (buildSigningString_ok also).2 name member⟩

theorem Accepted.agree (injective : Function.Injective environment.sha256)
    (one : Accepted environment earlier first signingKey replays after)
    (other : Accepted environment later second signer others rest)
    (same : first.lines = second.lines) : AgreeSigned first second := by
  obtain ⟨names, values⟩ := one.same_values other same
  obtain ⟨⟨target, host⟩, _, digest⟩ :=
    validateSignatureConstraints_ok_iff.mp one.constraints
  obtain ⟨_, _, alsoDigest⟩ := validateSignatureConstraints_ok_iff.mp other.constraints
  have targets : first.conn.requestTarget = second.conn.requestTarget :=
    Option.some.inj (values _ target)
  have hosts : first.conn.signedHost = second.conn.signedHost :=
    Option.some.inj (values _ host)
  obtain ⟨method, path, query⟩ := requestTarget_inj targets
  refine ⟨method, path, query, hosts, ?_⟩
  intro expected
  obtain ⟨signed, valid⟩ := validateDigest_of_signed digest expected
  have alsoSigned : "digest" ∈ second.names := names ▸ signed
  obtain ⟨_, alsoValid⟩ := validateDigest_of_signed alsoDigest (.inr alsoSigned)
  have headers : (first.conn.getReqHeader "digest").head? =
      (second.conn.getReqHeader "digest").head? := values _ signed
  unfold validateDigestHeader at valid alsoValid
  cases given : (first.conn.getReqHeader "digest").head? with
  | none =>
      rw [given] at valid
      cases valid
  | some header =>
      rw [given] at valid headers
      rw [← headers] at alsoValid
      simp only at valid alsoValid
      cases found : extractSha256Digest header with
      | none =>
          rw [found] at valid
          cases valid
      | some entry =>
          rw [found] at valid alsoValid
          cases read : first.conn.rawBody with
          | none =>
              rw [read] at valid
              cases valid
          | some body =>
              cases alsoRead : second.conn.rawBody with
              | none =>
                  rw [alsoRead] at alsoValid
                  cases alsoValid
              | some copy =>
                  simp only [read, alsoRead] at valid alsoValid
                  split_ifs at valid with hashed
                  split_ifs at alsoValid with alsoHashed
                  rw [hashed] at alsoHashed
                  exact congrArg some (injective (encode64_inj.mp alsoHashed))

/-- What is accepted is bound by the verified text, and requests accepted with one signature
agree in what it binds. -/
theorem signature_binds (one : VerifiesOne environment)
    (injective : Function.Injective environment.sha256) :
    (∀ now keys request replays after signingKey,
      verifyWithKey environment now keys request replays = (.ok signingKey, after) →
      BindsRequest environment now request signingKey) ∧
    ∀ earlier keys first replays after later otherKeys second others rest signingKey signer,
      verifyWithKey environment earlier keys first replays = (.ok signingKey, after) →
      verifyWithKey environment later otherKeys second others = (.ok signer, rest) →
      signingKey.publicKey = signer.publicKey → first.signature = second.signature →
      AgreeSigned first second := by
  constructor
  · intro now keys request replays after signingKey ended
    exact (verifyWithKey_accepted ended).binds
  · intro earlier keys first replays after later otherKeys second others rest signingKey signer
      ended repeated sameKey sameSignature
    have accepted := verifyWithKey_accepted ended
    have again := verifyWithKey_accepted repeated
    have verified := accepted.binds.verified
    have also := again.binds.verified
    rw [← sameKey, ← sameSignature] at also
    have texts := one _ _ _ _ verified also
    apply accepted.agree injective again
    exact joinLines_inj (signingLines_oneLine first) (signingLines_oneLine second)
      accepted.lines_ne_nil again.lines_ne_nil texts

def deletionText : String :=
  "(request-target): delete /inbox\nhost: local.example\n(expires): 2000000"

def oneSignature : Environment where
  sha256 bytes := bytes
  verify _ text signature := text == deletionText && signature == "c2lnbmF0dXJl"
  httpDate _ := none
  jason fields := (fields.date.getD "").toList.map fun character =>
    UInt8.ofNat character.toNat
  signatureMaxAgeSeconds := 300
  signatureClockSkewSeconds := 300

theorem oneSignature_verifiesOne : VerifiesOne oneSignature := by
  intro publicKey signature text other verified also
  have first := (Bool.and_eq_true _ _ ▸ verified : _ ∧ _).1
  have second := (Bool.and_eq_true _ _ ▸ also : _ ∧ _).1
  rw [eq_of_beq first, eq_of_beq second]

def deletion (method : String) (body : List UInt8) (date : String) (token : ' ' ∉ method.toList)
    (single : OneLine method ∧ OneLine date) : SignedConn where
  conn :=
    { method := method
      requestPath := "/inbox"
      queryString := ""
      host := "local.example"
      headers := [("host", "local.example"), ("date", date)]
      rawBody := some body
      single := ⟨single.1, by decide, by decide, by decide, by
        intro header member
        rcases List.mem_cons.mp member with here | later
        · rw [here]
          decide
        · rw [List.mem_singleton.mp later]
          exact single.2⟩
      apart := ⟨token, by decide⟩ }
  keyId := "https://remote.example/users/bob#main-key"
  headersString := "(request-target) host (expires)"
  signature := "c2lnbmF0dXJl"
  params := ⟨none, some "2000000"⟩
  single := ⟨by decide, by simp, by decide⟩

def deletionOnce : SignedConn :=
  deletion "DELETE" [1] "" (by decide) (by decide)

def deletionAgain : SignedConn :=
  deletion "delete" [2] "again" (by decide) (by decide)

theorem signature_binds_deletion :
    BindsRequest oneSignature 1000 deletionOnce
      ⟨"https://remote.example/users/bob#main-key", "key"⟩ := by
  have ended : verifyWithKey oneSignature 1000 ⟨some "key", none⟩ deletionOnce [] =
    (.ok _, _) := rfl
  exact (signature_binds oneSignature_verifiesOne (fun _ _ same => same)).1 _ _ _ _ _ _ ended

theorem deletionOnce_lines (name : String) (value : String) (spaceless : ' ' ∉ name.toList)
    (line : signingLine name value ∈ deletionOnce.lines) :
    name = "(request-target)" ∨ name = "host" ∨ name = "(expires)" := by
  have lines : deletionOnce.lines = [signingLine "(request-target)" "delete /inbox",
    signingLine "host" "local.example", signingLine "(expires)" "2000000"] := rfl
  rw [lines] at line
  simp only [List.mem_cons, List.not_mem_nil, or_false] at line
  rcases line with same | same | same
  · exact .inl (signingLine_inj spaceless (by decide) same).1
  · exact .inr (.inl (signingLine_inj spaceless (by decide) same).1)
  · exact .inr (.inr (signingLine_inj spaceless (by decide) same).1)

/-- A request is accepted whose verified text says neither when it was made nor what its body
is, and with the same signature another one with another method and body. -/
theorem deletion_unbound :
    (∃ key after rest,
      verifyWithKey oneSignature 1000 ⟨some "key", none⟩ deletionOnce [] = (.ok key, after) ∧
      verifyWithKey oneSignature 1000 ⟨some "key", none⟩ deletionAgain after = (.ok key, rest)) ∧
    ¬ SignedTime oneSignature 1000 deletionOnce.lines ∧
    deletionOnce.signature = deletionAgain.signature ∧
    deletionOnce.conn.method ≠ deletionAgain.conn.method ∧
    deletionOnce.conn.rawBody ≠ deletionAgain.conn.rawBody := by
  refine ⟨⟨_, _, _, rfl, rfl⟩, ?_, rfl, by decide, by decide⟩
  intro ⟨value, time, stamped, _⟩
  rcases stamped with ⟨line, _⟩ | ⟨line, _⟩
  · have names := deletionOnce_lines "(created)" value (by decide) line
    revert names
    decide
  · have names := deletionOnce_lines "date" value (by decide) line
    revert names
    decide

end Elektrine.ActivityPub
