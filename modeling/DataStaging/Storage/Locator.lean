import DataStaging.Fault

/-!
# Storage locators

A locator names an object or a group of objects: a bucket of one of four kinds and a key inside it.

    s3://<bucket>/<key>
    gs://<bucket>/<key>
    swift://<host>/<namespace>/<bucket>/<key>
    tos://<host>/<bucket>/<key>

The key may be empty and may hold any character, separators included. The bucket alone decides how
it is mounted: its base, the profile whose credentials open it, and its endpoint.

Results:
* `cutSeparator_append`: a text without `:` before the first separator is cut there.
* `cutSegment_append`: a segment without `/` is cut off at the `/` that follows it.
-/

namespace DataStaging

/-- The kinds of object storage. -/
inductive Scheme
  | s3
  | swift
  | gs
  | tos
deriving DecidableEq, Repr

namespace Scheme

def name : Scheme → String
  | s3 => "s3"
  | swift => "swift"
  | gs => "gs"
  | tos => "tos"

def ofName? (name : String) : Option Scheme :=
  if name = "s3" then some s3
  else if name = "swift" then some swift
  else if name = "gs" then some gs
  else if name = "tos" then some tos
  else none

end Scheme

/-- A place that holds objects; one local mount can serve all of it. -/
inductive Bucket
  | s3 (bucket : String)
  | gs (bucket : String)
  | swift (host space bucket : String)
  | tos (host bucket : String)
deriving DecidableEq, Repr

namespace Bucket

def scheme : Bucket → Scheme
  | s3 _ => .s3
  | gs _ => .gs
  | swift _ _ _ => .swift
  | tos _ _ => .tos

/-- The bucket's own name. -/
def name : Bucket → String
  | s3 bucket | gs bucket | swift _ _ bucket | tos _ bucket => bucket

def host? : Bucket → Option String
  | swift host _ _ | tos host _ => some host
  | _ => none

def namespace? : Bucket → Option String
  | swift _ space _ => some space
  | _ => none

/-- The text that names the bucket, up to the key. -/
def base : Bucket → String
  | s3 bucket => "s3://" ++ bucket
  | gs bucket => "gs://" ++ bucket
  | swift host space bucket => "swift://" ++ host ++ "/" ++ space ++ "/" ++ bucket
  | tos host bucket => "tos://" ++ host ++ "/" ++ bucket

/-- The key under which the bucket's credentials are kept. -/
def profile : Bucket → String
  | s3 bucket => "s3://" ++ bucket
  | gs bucket => "gs://" ++ bucket
  | swift host space _ => "swift://" ++ host ++ "/" ++ space
  | tos host bucket => "tos://" ++ host ++ "/" ++ bucket

/-- The endpoint of the storage interface for interoperable access. -/
def sharedEndpoint : String := "https://storage.googleapis.com"

/-- Where requests for the bucket are sent, unless the mount client knows it by itself. -/
def endpoint? : Bucket → Option String
  | s3 _ => none
  | gs _ => some sharedEndpoint
  | swift host _ _ | tos host _ => some ("https://" ++ host)

/-- Whether the bucket's name may stand in the path of a request. -/
def allowsPathStyle : Bucket → Bool
  | tos _ _ => false
  | _ => true

end Bucket

/-- What is wrong with a text that is no locator. -/
inductive LocatorFlaw
  | noSeparator
  | unsupportedScheme (name : String)
  | noHost
  | noNamespace
  | noBucket
deriving DecidableEq, Repr

def LocatorFlaw.message : LocatorFlaw → String
  | noSeparator => "missing '://' separator"
  | unsupportedScheme name => "unsupported scheme '" ++ name ++ "'"
  | noHost => "missing host"
  | noNamespace => "missing namespace segment"
  | noBucket => "missing bucket segment"

/-- A bucket and a key inside it, with the text that named them. -/
structure Locator where
  text : String
  bucket : Bucket
  key : String
deriving DecidableEq, Repr

namespace Locator

/-- What stands before and after the first `://`. -/
def cutSeparator : List Char → Option (List Char × List Char)
  | [] => none
  | ':' :: '/' :: '/' :: rest => some ([], rest)
  | c :: rest => (cutSeparator rest).map (fun p => (c :: p.1, p.2))

/-- What stands before and after the first `/`; without one, all of it and nothing. -/
def cutSegment : List Char → List Char × List Char
  | [] => ([], [])
  | c :: rest =>
    if c = '/' then ([], rest)
    else ((c :: (cutSegment rest).1), (cutSegment rest).2)

theorem cutSeparator_append (before rest : List Char) (h : ':' ∉ before) :
    cutSeparator (before ++ ':' :: '/' :: '/' :: rest) = some (before, rest) := by
  induction before with
  | nil => simp [cutSeparator]
  | cons c before ih =>
    have hc : c ≠ ':' := fun e => h (by simp [e])
    have hb : ':' ∉ before := fun e => h (by simp [e])
    rw [List.cons_append, cutSeparator.eq_3 _ _ (by simp [hc]), ih hb]
    rfl

theorem cutSegment_append (segment rest : List Char) (h : '/' ∉ segment) :
    cutSegment (segment ++ '/' :: rest) = (segment, rest) := by
  induction segment with
  | nil => simp [cutSegment]
  | cons c segment ih =>
    have hc : c ≠ '/' := fun e => h (by simp [e])
    have hs : '/' ∉ segment := fun e => h (by simp [e])
    simp [cutSegment, hc, ih hs]

/-- Reads the bucket and the key from what follows the separator. -/
def readPlace (scheme : Scheme) (rest : List Char) : Except LocatorFlaw (Bucket × String) :=
  let (host, remainder) := cutSegment rest
  if host.isEmpty then .error .noHost
  else
    let host := String.ofList host
    match scheme with
    | .s3 => .ok (.s3 host, String.ofList remainder)
    | .gs => .ok (.gs host, String.ofList remainder)
    | .swift =>
      let (space, remainder) := cutSegment remainder
      let (bucket, key) := cutSegment remainder
      if space.isEmpty then .error .noNamespace
      else if bucket.isEmpty then .error .noBucket
      else .ok (.swift host (String.ofList space) (String.ofList bucket), String.ofList key)
    | .tos =>
      let (bucket, key) := cutSegment remainder
      if bucket.isEmpty then .error .noBucket
      else .ok (.tos host (String.ofList bucket), String.ofList key)

/-- Reads a locator, or says what is wrong with the text. -/
def read (text : String) : Except LocatorFlaw Locator :=
  match cutSeparator text.toList with
  | none => .error .noSeparator
  | some (name, rest) =>
    match Scheme.ofName? (String.ofList name) with
    | none => .error (.unsupportedScheme (String.ofList name))
    | some scheme => (readPlace scheme rest).map (fun place => ⟨text, place.1, place.2⟩)

/-- Reads a locator. -/
def parse (text : String) : Except Fault Locator :=
  (read text).mapError (fun flaw => .invalidLocator text flaw.message)

/-- The locator's base. -/
def base (l : Locator) : String := l.bucket.base

/-- The key as a directory: empty, or ending in `/`. -/
def directory (l : Locator) : String :=
  if l.key.isEmpty || l.key.toList.getLast? = some '/' then l.key else l.key ++ "/"

end Locator

end DataStaging
