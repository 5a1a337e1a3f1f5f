import Elektrine.Data.Bytes
import Elektrine.Data.Text
import Elektrine.Library.Separated

/-!
# Signed requests

A request is signed through one text with a line for each value that the
signature binds.  The signature itself travels as Base64 text; the verifier
decodes that text.
-/

namespace Elektrine.Messaging.ArblargSDK

open Elektrine.Library

structure PublicKey where
  bytes : List UInt8
  size : bytes.length = 32
  deriving DecidableEq

/-- The primitives of the runtime: SHA-256 of bytes, and the Ed25519 check of a
text against signature bytes and a key. -/
structure Crypto where
  sha256 : List UInt8 → List UInt8
  verify : List UInt8 → List UInt8 → PublicKey → Bool

def textBytes (text : String) : List UInt8 :=
  text.toUTF8.data.toList

structure Line where
  text : String
  single : '\n' ∉ text.toList
  deriving DecidableEq

structure SignedRequest where
  domain : Line
  keyId : Line
  method : Line
  requestPath : Line
  queryString : Line
  timestamp : Line
  contentDigest : Line
  requestId : Line
  signature : Line
  deriving DecidableEq

variable (crypto : Crypto)

def bodyDigest (body : List UInt8) : String :=
  urlEncode64 (crypto.sha256 body)

def canonicalPath (path : String) : String :=
  let trimmed := trim path
  if (present trimmed).isNone then "/"
  else if trimmed.toList.head? = some '/' then trimmed
  else "/" ++ trimmed

def canonicalQueryString (query : String) : String :=
  trim query

def canonicalContentDigest (contentDigest : String) : String :=
  match trim contentDigest with
  | "" => bodyDigest crypto []
  | value => value

def requestSignatureFields (request : SignedRequest) : List String :=
  [downcase request.domain.text,
    downcase request.method.text,
    canonicalPath request.requestPath.text,
    canonicalQueryString request.queryString.text,
    trim request.timestamp.text,
    canonicalContentDigest crypto request.contentDigest.text,
    trim request.requestId.text]

def canonicalRequestSignaturePayload (request : SignedRequest) : String :=
  "\n".intercalate (requestSignatureFields crypto request)

def verifyPayloadSignature (payload : String) (publicKey : PublicKey)
    (signature : String) : Bool :=
  match urlDecode64 (trim signature) with
  | some rawSignature => crypto.verify (textBytes payload) rawSignature publicKey
  | none => false

theorem Line.newline_not_mem_trim (line : Line) : '\n' ∉ (trim line.text).toList :=
  fun newline => line.single ((toList_trim_sublist line.text).subset newline)

theorem newline_not_mem_canonicalPath (path : Line) :
    '\n' ∉ (canonicalPath path.text).toList := by
  unfold canonicalPath
  dsimp only
  split_ifs with blank rooted
  · decide
  · exact path.newline_not_mem_trim
  · rw [String.toList_append, List.mem_append, not_or]
    exact ⟨by decide, path.newline_not_mem_trim⟩

theorem newline_not_mem_canonicalContentDigest (contentDigest : Line) :
    '\n' ∉ (canonicalContentDigest crypto contentDigest.text).toList := by
  have trimmed := contentDigest.newline_not_mem_trim
  unfold canonicalContentDigest
  split
  · exact newline_not_mem_urlEncode64 _
  · exact trimmed

@[simp] theorem length_requestSignatureFields (request : SignedRequest) :
    (requestSignatureFields crypto request).length = 7 :=
  rfl

theorem newline_not_mem_requestSignatureFields (request : SignedRequest) :
    ∀ field ∈ requestSignatureFields crypto request, '\n' ∉ field.toList := by
  simp only [requestSignatureFields, List.forall_mem_cons]
  exact ⟨newline_not_mem_downcase request.domain.single,
    newline_not_mem_downcase request.method.single,
    newline_not_mem_canonicalPath request.requestPath,
    request.queryString.newline_not_mem_trim,
    request.timestamp.newline_not_mem_trim,
    newline_not_mem_canonicalContentDigest crypto request.contentDigest,
    request.requestId.newline_not_mem_trim, List.forall_mem_nil _⟩

theorem eq_of_intercalate_eq {first second : List String}
    (lengths : first.length = second.length)
    (single : ∀ field ∈ first, '\n' ∉ field.toList)
    (single' : ∀ field ∈ second, '\n' ∉ field.toList)
    (same : "\n".intercalate first = "\n".intercalate second) :
    first = second := by
  have counts : ∀ fields : List String,
      (∀ field ∈ fields, '\n' ∉ field.toList) →
      (fields.map String.toList).map (List.count '\n') =
        List.replicate fields.length 0 := by
    intro fields none_of
    rw [List.map_map, List.eq_replicate_iff]
    refine ⟨List.length_map _, ?_⟩
    intro count member
    obtain ⟨field, there, rfl⟩ := List.mem_map.mp member
    exact List.count_eq_zero.mpr (none_of field there)
  have joined : ['\n'].intercalate (first.map String.toList) =
      ['\n'].intercalate (second.map String.toList) := by
    have texts := congrArg String.toList same
    rwa [String.toList_intercalate, String.toList_intercalate] at texts
  have injective : Function.Injective String.toList :=
    fun _ _ => String.toList_inj.mp
  apply List.map_injective_iff.mpr injective
  refine intercalate_inj_of_counts ?_ joined
  rw [counts first single, counts second single', lengths]

theorem requestSignatureFields_eq_of_payload_eq {first second : SignedRequest}
    (same : canonicalRequestSignaturePayload crypto first =
      canonicalRequestSignaturePayload crypto second) :
    requestSignatureFields crypto first = requestSignatureFields crypto second :=
  eq_of_intercalate_eq (by simp) (newline_not_mem_requestSignatureFields crypto first)
    (newline_not_mem_requestSignatureFields crypto second) same

end Elektrine.Messaging.ArblargSDK
