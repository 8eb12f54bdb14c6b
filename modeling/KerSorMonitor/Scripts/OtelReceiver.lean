import KerSorMonitor.Lib.Decimal
import KerSorMonitor.Lib.RelyGuarantee

/-!
# The telemetry receiver (`scripts/otel_receiver.py`)

`RequestStore` writes each request to files of its own and adds a record to an index. The names of
the files are made of a number that counts the requests of the process and of the path of the
request, so a process that is started on the directory of an earlier one begins with its names again.

Results:
1. `never_overwritten`: the runs in which no captured file is overwritten.
2. `careful_of_started_once`: these are all runs of one process.
-/

namespace Otel

open Keyed Threads
open Prog (call)

/-! ## Requests and records -/

/-- What the receiver uses of Python: `str.isalnum`, `x.strip().lower()`, the digest, the
decompressors, and `bytes.decode` with replacements. -/
structure Python where
  isalnum : Char → Bool
  stripLower : String → String
  sha256 : List UInt8 → String
  gunzip : List UInt8 → Except String (List UInt8)
  inflate : List UInt8 → Except String (List UInt8)
  decodeUtf8 : List UInt8 → String

/-- A request; the names of the headers are in lower case. -/
structure Request where
  method : String := "POST"
  requestPath : String
  query : String := ""
  headers : List (String × String) := []
  rawBody : List UInt8
  status : Nat := 200

/-- A record of the index. The files are named relative to the output directory. -/
structure Record where
  sequence : Nat
  timestamp : String
  method : String
  path : String
  query : String
  status : Nat
  contentType : String
  contentEncoding : Option String
  rawBytes : Nat
  sha256 : String
  rawBodyFile : String
  textPreviewFile : Option String
  metaFile : String
  decodeError : Option String
  headers : List (String × String)

variable (py : Python)

/-- `path.strip("/") or "root"`. -/
def stripSlashes (path : String) : List Char :=
  match ((path.toList.dropWhile (· = '/')).reverse.dropWhile (· = '/')).reverse with
  | [] => "root".toList
  | text => text

/-- `sanitize_path`. -/
def sanitizePath (path : String) : List Char :=
  (stripSlashes path).map fun c => if py.isalnum c || "._-".toList.contains c then c else '_'

/-- `printable_text`. -/
def printableText (data : List UInt8) : String :=
  (py.decodeUtf8 data).map fun c => if c.toNat < 32 && !([9, 10, 13].contains c.toNat) then '.' else c

/-- `decode_body`. -/
def decodeBody (rawBody : List UInt8) (contentEncoding : Option String) :
    Option (List UInt8) × Option String :=
  let encoding := py.stripLower (contentEncoding.getD "")
  let decoded (r : Except String (List UInt8)) : Option (List UInt8) × Option String :=
    match r with
    | .ok body => (some body, none)
    | .error exc => (none, some exc)
  if encoding = "" ∨ encoding = "identity" then (some rawBody, none)
  else if encoding = "gzip" then decoded (py.gunzip rawBody)
  else if encoding = "deflate" then decoded (py.inflate rawBody)
  else (none, some ("unsupported content-encoding: " ++ encoding))

/-- The files of a request. -/
inductive Kind
  | body | text | info
  deriving DecidableEq, Repr

def Kind.suffix : Kind → String
  | .body => ".body.bin"
  | .text => ".body.txt"
  | .info => ".meta.json"

/-- `f"{sequence:04d}-{sanitize_path(request_path)}"`. -/
def requestPrefix (sequence : Nat) (path : String) : String :=
  String.ofList (Decimal.atLeast 4 sequence ++ '-' :: sanitizePath py path)

def Record.stem (r : Record) : String := requestPrefix py r.sequence r.path

/-- The files that a record refers to. -/
def Record.files (r : Record) : List String :=
  r.rawBodyFile :: r.metaFile :: r.textPreviewFile.toList

/-- Python's `token in text`. -/
def occursIn (token text : String) : Bool :=
  text.toList.tails.any fun rest => token.toList.isPrefixOf rest

/-- The text of a body is kept for these types. -/
def hasPreview (contentType : String) : Bool :=
  ["json", "text", "protobuf", "octet-stream"].any fun token => occursIn token contentType

/-! ## The receiver -/

/-- What a file holds: bytes, a text, or a record as JSON. -/
inductive Content
  | bytes (data : List UInt8)
  | text (data : String)
  | json (r : Record)

/-- The output directory, and the counter of the process. The mark of a thread is ghost: the prefix
that it has been given and not yet recorded. -/
structure Receiver where
  sequence : Nat
  files : Dict String Content
  index : List Record
  given : List (ThreadId × String)

/-- An empty directory. -/
def Receiver.initial : Receiver := ⟨0, Table.empty, [], []⟩

/-- What a handler does to the store. -/
inductive Act : Type → Type 1
  /-- The next number; the path is ghost. -/
  | nextSequence (path : String) : Act Nat
  | writeFile (name : String) (content : Content) : Act Unit
  | utcNow : Act String
  /-- The line that is added to `index.ndjson`. -/
  | appendIndex (r : Record) : Act Unit

/-- What the system answers: the time, or an exception; a write that raises may leave anything. -/
structure Env where
  now : String := ""
  raises : Option String := none
  left : Option Content := none

namespace Receiver

/-- The marks of the other threads. -/
def others (t : ThreadId) (given : List (ThreadId × String)) : List (ThreadId × String) :=
  given.filter fun m => m.1 ≠ t

def exec (t : ThreadId) (env : Env) :
    {α : Type} → Act α → Receiver → Except String α × Receiver
  | _, .nextSequence path, s => (.ok (s.sequence + 1), { s with
      sequence := s.sequence + 1
      given := (t, requestPrefix py (s.sequence + 1) path) :: s.given })
  | _, .writeFile name content, s =>
    match env.raises with
    | none => (.ok (), { s with files := Dict.set s.files name content })
    | some exc => (.error exc, { s with
        files := env.left.elim s.files fun content => Dict.set s.files name content })
  | _, .utcNow, s => (.ok env.now, s)
  | _, .appendIndex r, s =>
    match env.raises with
    | none => (.ok (), { s with index := s.index ++ [r], given := others t s.given })
    | some exc => (.error exc, s)

end Receiver

/-- The text preview of a body that could be decoded. -/
def writePreview (contentType name : String) (decoded : Option (List UInt8)) :
    Prog Act String (Option String) :=
  match decoded, hasPreview contentType with
  | some body, true => do
    call (.writeFile name (.text (printableText py body)))
    pure (some name)
  | _, _ => pure none

def Request.header (req : Request) (name : String) : Option String := req.headers.lookup name

def Request.contentType (req : Request) : String := (req.header "content-type").getD ""

def Request.decoded (req : Request) : Option (List UInt8) × Option String :=
  decodeBody py req.rawBody (req.header "content-encoding")

/-- The record of a request. -/
def Request.record (req : Request) (sequence : Nat) (timestamp : String)
    (textPreviewFile : Option String) : Record where
  sequence := sequence
  timestamp := timestamp
  method := req.method
  path := req.requestPath
  query := req.query
  status := req.status
  contentType := req.contentType
  contentEncoding := (req.header "content-encoding").filter (· ≠ "")
  rawBytes := req.rawBody.length
  sha256 := py.sha256 req.rawBody
  rawBodyFile := requestPrefix py sequence req.requestPath ++ Kind.body.suffix
  textPreviewFile := textPreviewFile
  metaFile := requestPrefix py sequence req.requestPath ++ Kind.info.suffix
  decodeError := (req.decoded py).2
  headers := req.headers

/-- `write_request`. -/
def writeRequest (req : Request) : Prog Act String Record := do
  let sequence ← call (.nextSequence req.requestPath)
  let stem := requestPrefix py sequence req.requestPath
  call (.writeFile (stem ++ Kind.body.suffix) (.bytes req.rawBody))
  let preview ← writePreview py req.contentType (stem ++ Kind.text.suffix) (req.decoded py).1
  let now ← call .utcNow
  let record := req.record py sequence now preview
  call (.writeFile (stem ++ Kind.info.suffix) (.json record))
  call (.appendIndex record)
  pure record

/-- The handler threads of one process after another on one directory. -/
def receiver : System Act String Receiver Env Request where
  exec t {_} a env s := s.exec py t env a
  program req := do
    let _ ← writeRequest py req
    pure ()
  finish t s := { s with given := Receiver.others t s.given }
  restart s := { s with sequence := 0, given := [] }

/-! ## What is captured -/

/-- Every record refers to a body with its length and digest, and no two records refer to one file. -/
structure Captured (s : Receiver) : Prop where
  bodies : ∀ r ∈ s.index, ∃ data, Dict.get? s.files r.rawBodyFile = some (.bytes data) ∧
    data.length = r.rawBytes ∧ py.sha256 data = r.sha256
  distinct : s.index.Pairwise fun r r' => r.files.Disjoint r'.files

/-- The prefix that a request is given is not that of a record. -/
def Act.Careful : {α : Type} → Act α → Receiver → Prop
  | _, .nextSequence path, s => ∀ r ∈ s.index, r.stem py ≠ requestPrefix py (s.sequence + 1) path
  | _, _, _ => True

instance : ∀ {α : Type} (a : Act α) (s : Receiver), Decidable (a.Careful py s)
  | _, .nextSequence path, s => inferInstanceAs (Decidable
      (∀ r ∈ s.index, r.stem py ≠ requestPrefix py (s.sequence + 1) path))
  | _, .writeFile _ _, _ => isTrue trivial
  | _, .utcNow, _ => isTrue trivial
  | _, .appendIndex _, _ => isTrue trivial

/-! ## Names -/

section Names

variable {py} {m n : Nat} {path path' : String}

theorem sequence_of_requestPrefix (h : requestPrefix py m path = requestPrefix py n path') : m = n :=
  Decimal.atLeast_append_inj (by decide) (String.ofList_injective h)

/-- The last two characters of a name tell the kind of the file. -/
theorem file_inj {stem stem' : String} {kind kind' : Kind}
    (h : stem ++ kind.suffix = stem' ++ kind'.suffix) : stem = stem' ∧ kind = kind' := by
  have hlast : ∀ (stem : String) (kind : Kind),
      (stem ++ kind.suffix).toList.reverse.take 2 = kind.suffix.toList.reverse.take 2 := by
    intro stem kind
    rw [String.toList_append, List.reverse_append]
    cases kind <;> rfl
  have hkind : kind.suffix.toList.reverse.take 2 = kind'.suffix.toList.reverse.take 2 := by
    rw [← hlast stem kind, h, hlast stem' kind']
  obtain rfl : kind = kind' := by
    revert hkind
    cases kind <;> cases kind' <;> decide
  refine ⟨String.toList_injective ?_, rfl⟩
  have hchars := congrArg String.toList h
  rw [String.toList_append, String.toList_append] at hchars
  exact List.append_cancel_right hchars

end Names

/-! ## The invariant -/

/-- The files of the record are named after its prefix. -/
structure Record.Named (r : Record) : Prop where
  body : r.rawBodyFile = r.stem py ++ Kind.body.suffix
  info : r.metaFile = r.stem py ++ Kind.info.suffix
  text : ∀ file ∈ r.textPreviewFile, file = r.stem py ++ Kind.text.suffix

/-- The body of the record is in its file. -/
def Record.Stored (r : Record) (files : Dict String Content) : Prop :=
  ∃ data, Dict.get? files r.rawBodyFile = some (.bytes data) ∧ data.length = r.rawBytes ∧
    py.sha256 data = r.sha256

/-- The prefixes of the records and of the marks are all different. -/
structure Sound (s : Receiver) : Prop where
  marks : (s.given.map Prod.snd).Nodup
  numbered : ∀ m ∈ s.given, ∃ n path, n ≤ s.sequence ∧ m.2 = requestPrefix py n path
  unrecorded : ∀ r ∈ s.index, ∀ m ∈ s.given, r.stem py ≠ m.2
  named : ∀ r ∈ s.index, r.Named py
  stored : ∀ r ∈ s.index, r.Stored py s.files
  stems : s.index.Pairwise fun r r' => r.stem py ≠ r'.stem py

/-- The thread keeps its mark, and no other thread writes a file with its prefix. -/
def Kept (t : ThreadId) (s s' : Receiver) : Prop :=
  ∀ stem, (t, stem) ∈ s.given → (t, stem) ∈ s'.given ∧
    ∀ kind : Kind, Dict.get? s'.files (stem ++ kind.suffix) = Dict.get? s.files (stem ++ kind.suffix)

/-- Each thread works under its own prefix. -/
def capturing : Contract (receiver py) where
  inv := Sound py
  rely := Kept
  guar t s s' := Sound py s' ∧ ∀ t', t' ≠ t → Kept t' s s'
  clean _ _ := True
  assume _ {_} a _ s := a.Careful py s
  check _ {_} _ _ := True
  rely_refl _ _ _ h := ⟨h, fun _ => rfl⟩
  rely_trans h h' stem hstem := by
    obtain ⟨hmark, hfiles⟩ := h stem hstem
    obtain ⟨hmark', hfiles'⟩ := h' stem hmark
    exact ⟨hmark', fun kind => (hfiles' kind).trans (hfiles kind)⟩
  clean_rely _ _ := trivial
  inv_guar _ h := h.1
  rely_guar _ h hne := h.2 _ hne

section Steps

variable {py} {s s' : Receiver} {t : ThreadId} {env : Env}

theorem Record.Named.files_eq {r : Record} (h : r.Named py) {file : String} (hfile : file ∈ r.files) :
    ∃ kind : Kind, file = r.stem py ++ kind.suffix := by
  rcases List.mem_cons.mp hfile with rfl | hfile
  · exact ⟨.body, h.body⟩
  rcases List.mem_cons.mp hfile with rfl | hfile
  · exact ⟨.info, h.info⟩
  · exact ⟨.text, h.text file (Option.mem_toList.mp hfile)⟩

theorem Sound.captured (h : Sound py s) : Captured py s := by
  refine ⟨h.stored, h.stems.imp_of_mem fun hr hr' hne file hfile hfile' => ?_⟩
  obtain ⟨kind, hkind⟩ := (h.named _ hr).files_eq hfile
  obtain ⟨kind', hkind'⟩ := (h.named _ hr').files_eq hfile'
  exact hne (file_inj (hkind.symm.trans hkind')).1

theorem sound_initial : Sound py .initial := by
  constructor <;> simp [Receiver.initial]

theorem mem_others {given : List (ThreadId × String)} {m : ThreadId × String} :
    m ∈ Receiver.others t given ↔ m ∈ given ∧ m.1 ≠ t := by
  simp [Receiver.others]

/-- Marks may go. -/
theorem Sound.fewer (h : Sound py s) {given : List (ThreadId × String)} (hsub : given.Sublist s.given) :
    Sound py { s with given } where
  marks := h.marks.sublist (hsub.map Prod.snd)
  numbered m hm := h.numbered m (hsub.subset hm)
  unrecorded r hr m hm := h.unrecorded r hr m (hsub.subset hm)
  named := h.named
  stored := h.stored
  stems := h.stems

theorem kept_others {t' : ThreadId} (hne : t' ≠ t) (s : Receiver) :
    Kept t' s { s with given := Receiver.others t s.given } :=
  fun _ hstem => ⟨mem_others.mpr ⟨hstem, hne⟩, fun _ => rfl⟩

/-- A careful thread gets a prefix that nobody has. -/
theorem next_step (hs : Sound py s) {path : String} (hcareful : (Act.nextSequence path).Careful py s)
    {r : Except String Nat} (hexec : s.exec py t env (.nextSequence path) = (r, s')) :
    (capturing py).guar t s s' ∧ ∃ n, r = .ok n ∧ (t, requestPrefix py n path) ∈ s'.given := by
  obtain ⟨rfl, rfl⟩ := Prod.mk.inj hexec
  refine ⟨⟨⟨?_, ?_, ?_, hs.named, hs.stored, hs.stems⟩, fun t' hne stem hstem =>
    ⟨List.mem_cons_of_mem _ hstem, fun _ => rfl⟩⟩, _, rfl, List.mem_cons_self⟩
  · refine List.nodup_cons.mpr ⟨fun hmem => ?_, hs.marks⟩
    obtain ⟨m, hm, hstem⟩ := List.mem_map.mp hmem
    obtain ⟨n, path', hle, hname⟩ := hs.numbered m hm
    have := sequence_of_requestPrefix (hstem.symm.trans hname)
    omega
  · intro m hm
    rcases List.mem_cons.mp hm with rfl | hm
    · exact ⟨_, path, le_rfl, rfl⟩
    · obtain ⟨n, path', hle, hname⟩ := hs.numbered m hm
      exact ⟨n, path', Nat.le_succ_of_le hle, hname⟩
  · intro r hr m hm
    rcases List.mem_cons.mp hm with rfl | hm
    · exact hcareful r hr
    · exact hs.unrecorded r hr m hm

/-- A thread may leave anything in a file with its prefix. -/
theorem guar_of_write (hs : Sound py s) {stem : String} (hmark : (t, stem) ∈ s.given) (kind : Kind)
    (content : Content) :
    (capturing py).guar t s { s with files := Dict.set s.files (stem ++ kind.suffix) content } := by
  have hother : ∀ stem' (kind' : Kind), stem' ≠ stem →
      Dict.get? (Dict.set s.files (stem ++ kind.suffix) content) (stem' ++ kind'.suffix) =
        Dict.get? s.files (stem' ++ kind'.suffix) := by
    intro stem' kind' hne
    rw [Dict.get?_set, if_neg fun h => hne (file_inj h).1]
  refine ⟨⟨hs.marks, hs.numbered, hs.unrecorded, hs.named, fun r hr => ?_, hs.stems⟩,
    fun t' hne stem' hmark' => ⟨hmark', fun kind' => hother stem' kind' ?_⟩⟩
  · obtain ⟨data, hfile, hdata⟩ := hs.stored r hr
    refine ⟨data, ?_, hdata⟩
    rw [(hs.named r hr).body] at hfile ⊢
    rw [hother _ _ (hs.unrecorded r hr _ hmark), hfile]
  · rintro rfl
    have hsame := List.inj_on_of_nodup_map hs.marks hmark' hmark rfl
    exact hne (congrArg Prod.fst hsame)

theorem write_step (hs : Sound py s) {stem : String} (hmark : (t, stem) ∈ s.given) {kind : Kind}
    {content : Content} {r : Except String Unit}
    (hexec : s.exec py t env (.writeFile (stem ++ kind.suffix) content) = (r, s')) :
    (capturing py).guar t s s' ∧ (t, stem) ∈ s'.given ∧
      (r = .ok () → Dict.get? s'.files (stem ++ kind.suffix) = some content) ∧
      ∀ kind', kind' ≠ kind → Dict.get? s'.files (stem ++ kind'.suffix) =
        Dict.get? s.files (stem ++ kind'.suffix) := by
  have hkinds : ∀ content' (kind' : Kind), kind' ≠ kind →
      Dict.get? (Dict.set s.files (stem ++ kind.suffix) content') (stem ++ kind'.suffix) =
        Dict.get? s.files (stem ++ kind'.suffix) := by
    intro content' kind' hne
    rw [Dict.get?_set, if_neg fun h => hne (file_inj h).2]
  unfold Receiver.exec at hexec
  dsimp only at hexec
  cases hraises : env.raises with
  | none =>
    rw [hraises] at hexec
    obtain ⟨rfl, rfl⟩ := Prod.mk.inj hexec
    exact ⟨guar_of_write hs hmark kind content, hmark, fun _ => by rw [Dict.get?_set, if_pos rfl],
      hkinds content⟩
  | some exc =>
    rw [hraises] at hexec
    obtain ⟨rfl, rfl⟩ := Prod.mk.inj hexec
    cases env.left with
    | none => exact ⟨⟨hs, fun t' _ => (capturing py).rely_refl t' s⟩, hmark, (fun h => by cases h),
        fun _ _ => rfl⟩
    | some left => exact ⟨guar_of_write hs hmark kind left, hmark, (fun h => by cases h), hkinds left⟩

theorem appendIndex_cases {r : Record} {res : Except String Unit}
    (hexec : s.exec py t env (.appendIndex r) = (res, s')) :
    s' = s ∨ s' = { s with index := s.index ++ [r], given := Receiver.others t s.given } := by
  unfold Receiver.exec at hexec
  dsimp only at hexec
  cases hraises : env.raises with
  | none =>
    rw [hraises] at hexec
    exact Or.inr (Prod.mk.inj hexec).2.symm
  | some exc =>
    rw [hraises] at hexec
    exact Or.inl (Prod.mk.inj hexec).2.symm

/-- The record of a thread whose body is written. -/
theorem append_step (hs : Sound py s) {r : Record} (hmark : (t, r.stem py) ∈ s.given)
    (hnamed : r.Named py) (hstored : r.Stored py s.files) {res : Except String Unit}
    (hexec : s.exec py t env (.appendIndex r) = (res, s')) : (capturing py).guar t s s' := by
  rcases appendIndex_cases hexec with rfl | rfl
  · exact ⟨hs, fun t' _ => (capturing py).rely_refl t' s'⟩
  have hfewer := hs.fewer (List.filter_sublist (p := fun m => m.1 ≠ t) (l := s.given))
  refine ⟨⟨hfewer.marks, hfewer.numbered, ?_, ?_, ?_, ?_⟩, fun t' hne => kept_others hne s⟩
  · intro r' hr' m hm
    rcases List.mem_append.mp hr' with hr' | hr'
    · exact hfewer.unrecorded r' hr' m hm
    · obtain rfl := List.mem_singleton.mp hr'
      obtain ⟨hm, hne⟩ := mem_others.mp hm
      intro hstem
      have hsame := List.inj_on_of_nodup_map hs.marks hm hmark hstem.symm
      exact hne (congrArg Prod.fst hsame)
  · intro r' hr'
    rcases List.mem_append.mp hr' with hr' | hr'
    · exact hs.named r' hr'
    · exact List.mem_singleton.mp hr' ▸ hnamed
  · intro r' hr'
    rcases List.mem_append.mp hr' with hr' | hr'
    · exact hs.stored r' hr'
    · exact List.mem_singleton.mp hr' ▸ hstored
  · refine List.pairwise_append.mpr ⟨hs.stems, List.pairwise_singleton _ _, fun r' hr' r'' hr'' => ?_⟩
    rw [List.mem_singleton.mp hr'']
    exact hs.unrecorded r' hr' _ hmark

end Steps

/-! ## The program -/

/-- The thread has the mark, and the body is in its file. -/
def Wrote (t : ThreadId) (stem : String) (data : List UInt8) (s : Receiver) : Prop :=
  (t, stem) ∈ s.given ∧ Dict.get? s.files (stem ++ Kind.body.suffix) = some (.bytes data)

section Program

variable {py} {s : Receiver} {t : ThreadId}

theorem wrote_stable (stem : String) (data : List UInt8) :
    Stable (capturing py) t (Wrote t stem data) := by
  intro s s' h hrely
  obtain ⟨hmark, hfiles⟩ := hrely stem h.1
  exact ⟨hmark, (hfiles .body).trans h.2⟩

/-- A file other than the body. -/
theorem writeFile_safe {stem : String} {data : List UInt8} {kind : Kind} (hkind : kind ≠ .body)
    (content : Content) (h : Wrote t stem data s) :
    Safe (capturing py) t (call (.writeFile (stem ++ kind.suffix) content))
      (fun _ => Wrote t stem data) s := by
  refine Safe.call fun s₁ hrely hinv => ⟨trivial, fun env r s₂ _ hexec => ?_⟩
  obtain ⟨hmark, hbody⟩ := wrote_stable stem data s s₁ h hrely
  have hwrite : s₁.exec py t env (.writeFile (stem ++ kind.suffix) content) = (r, s₂) := hexec
  obtain ⟨hguar, hmark', -, hother⟩ := write_step hinv hmark hwrite
  exact ⟨hguar, hmark', (hother .body hkind.symm).trans hbody⟩

theorem writePreview_safe {stem : String} {data : List UInt8} (contentType : String)
    (decoded : Option (List UInt8)) (h : Wrote t stem data s) :
    Safe (capturing py) t (writePreview py contentType (stem ++ Kind.text.suffix) decoded)
      (fun r s => Wrote t stem data s ∧
        ∀ preview, r = .ok preview → ∀ file ∈ preview, file = stem ++ Kind.text.suffix) s := by
  unfold writePreview
  split
  · refine Safe.seq (writeFile_safe (by decide) _ h) (fun _ s hw => ⟨hw, ?_⟩)
      fun _ s hw => ⟨hw, fun _ heq => by cases heq⟩
    rintro preview heq file hfile
    cases heq
    exact (Option.mem_some.mp hfile).symm
  · refine ⟨h, ?_⟩
    rintro preview heq file hfile
    cases heq
    cases hfile

theorem nextSequence_safe (path : String) : Safe (capturing py) t (call (.nextSequence path))
    (fun r s => ∀ n, r = .ok n → (t, requestPrefix py n path) ∈ s.given) s := by
  refine Safe.call fun s₁ _ hinv => ⟨trivial, fun env r s₂ hcareful hexec => ?_⟩
  obtain ⟨hguar, n, rfl, hmark⟩ := @next_step py s₁ s₂ t env hinv path hcareful r hexec
  refine ⟨hguar, fun n' hn' => ?_⟩
  rw [← Except.ok.inj hn']
  exact hmark

theorem writeBody_safe {stem : String} (data : List UInt8) (hmark : (t, stem) ∈ s.given) :
    Safe (capturing py) t (call (.writeFile (stem ++ Kind.body.suffix) (.bytes data)))
      (fun r s => r = .ok () → Wrote t stem data s) s := by
  refine Safe.call fun s₁ hrely hinv => ⟨trivial, fun env r s₂ _ hexec => ?_⟩
  have hwrite : s₁.exec py t env (.writeFile (stem ++ Kind.body.suffix) (.bytes data)) = (r, s₂) := hexec
  obtain ⟨hguar, hmark', hwritten, -⟩ := write_step hinv (hrely stem hmark).1 hwrite
  exact ⟨hguar, fun hok => ⟨hmark', hwritten hok⟩⟩

theorem utcNow_safe {stem : String} {data : List UInt8} (h : Wrote t stem data s) :
    Safe (capturing py) t (call .utcNow) (fun _ => Wrote t stem data) s := by
  refine Safe.call fun s₁ hrely hinv => ⟨trivial, fun env r s₂ _ hexec => ?_⟩
  obtain ⟨rfl, rfl⟩ := Prod.mk.inj hexec
  exact ⟨⟨hinv, fun t' _ => (capturing py).rely_refl t' s₁⟩, wrote_stable _ _ s s₁ h hrely⟩

theorem appendIndex_safe {r : Record} {data : List UInt8} (h : Wrote t (r.stem py) data s)
    (hnamed : r.Named py) (hdata : data.length = r.rawBytes ∧ py.sha256 data = r.sha256) :
    Safe (capturing py) t (call (.appendIndex r)) (fun _ _ => True) s := by
  refine Safe.call fun s₁ hrely hinv => ⟨trivial, fun env res s₂ _ hexec => ⟨?_, trivial⟩⟩
  obtain ⟨hmark, hfile⟩ := wrote_stable _ _ s s₁ h hrely
  exact append_step hinv hmark hnamed ⟨data, by rw [hnamed.body]; exact hfile, hdata⟩ hexec

theorem writeRequest_safe (req : Request) :
    Safe (capturing py) t (writeRequest py req) (fun _ _ => True) s := by
  unfold writeRequest
  refine Safe.seq (nextSequence_safe req.requestPath) (fun n s hmark => ?_) fun _ _ _ => trivial
  refine Safe.seq (writeBody_safe req.rawBody (hmark n rfl)) (fun _ s hwrote => ?_) fun _ _ _ => trivial
  refine Safe.seq (writePreview_safe _ _ (hwrote rfl)) (fun preview s hpreview => ?_) fun _ _ _ => trivial
  refine Safe.seq (utcNow_safe hpreview.1) (fun now s hwrote => ?_) fun _ _ _ => trivial
  refine Safe.seq (writeFile_safe (by decide) _ hwrote) (fun _ s hwrote => ?_) fun _ _ _ => trivial
  have hnamed : (req.record py n now preview).Named py := ⟨rfl, rfl, hpreview.2 preview rfl⟩
  exact Safe.seq (appendIndex_safe hwrote hnamed ⟨rfl, rfl⟩) (fun _ _ _ => trivial) fun _ _ _ => trivial

theorem capturing_sound : (capturing py).Sound (fun _ => True) True where
  safe := by
    intro req _ t s _ _
    have hsafe : Safe (capturing py) t ((receiver py).program req) (fun _ _ => True) s :=
      Safe.seq (writeRequest_safe req) (fun _ _ _ => trivial) fun _ _ _ => trivial
    refine hsafe.mono fun _ s _ hs => ?_
    exact ⟨hs.fewer List.filter_sublist, trivial, fun t' hne => kept_others hne s⟩
  restart _ s hs := by
    refine ⟨⟨List.nodup_nil, fun m hm => ?_, fun _ _ m hm => ?_, hs.named, hs.stored, hs.stems⟩,
      fun _ => trivial⟩ <;> exact absurd hm List.not_mem_nil

end Program

/-! ## Runs -/

/-- Each request is given a prefix that no record has. -/
def CarefulEvent (c : Config Act String Receiver) (ev : Event Env Request) : Prop :=
  Config.Allows (fun a s => a.Careful py s) c ev

instance (c : Config Act String Receiver) (ev : Event Env Request) :
    Decidable (CarefulEvent py c ev) :=
  inferInstanceAs (Decidable (Config.Allows (fun a s => a.Careful py s) c ev))

/-- In a run in which each request gets a prefix that no record has, no captured file is overwritten. -/
theorem never_overwritten (events : List (Event Env Request))
    (hcareful : Config.Along (receiver py) (CarefulEvent py) events (Config.initial .initial)) :
    Captured py (Config.run (receiver py) events (Config.initial .initial)).shared := by
  have hinit : (capturing py).Holds (Config.initial .initial) :=
    Contract.holds_initial sound_initial fun _ => trivial
  refine (capturing_sound.holds_run (Config.along_mono (fun c ev hok => ?_) hcareful) hinit).inv.captured
  cases ev with
  | spawn req => trivial
  | step t env => exact hok
  | restart => trivial

/-! ## One process -/

/-- The counter of the process is at least the number of each record. -/
def counting : Contract (receiver py) where
  inv s := ∀ r ∈ s.index, r.sequence ≤ s.sequence
  rely _ s s' := s.sequence ≤ s'.sequence
  guar _ s s' := s.sequence ≤ s'.sequence ∧ ∀ r ∈ s'.index, r.sequence ≤ s'.sequence
  clean _ _ := True
  assume _ {_} _ _ _ := True
  check _ {_} a s := a.Careful py s
  rely_refl _ _ := le_rfl
  rely_trans := le_trans
  clean_rely _ _ := trivial
  inv_guar _ h := h.2
  rely_guar _ h _ := h.1

section Counting

variable {py} {s : Receiver} {t : ThreadId}

theorem careful_of_le {α : Type} (a : Act α) (h : ∀ r ∈ s.index, r.sequence ≤ s.sequence) :
    a.Careful py s := by
  cases a with
  | nextSequence path =>
    intro r hr hstem
    have hle := h r hr
    have := sequence_of_requestPrefix hstem
    omega
  | _ => trivial

/-- The actions before the record is added. -/
def Act.Unindexed : {α : Type} → Act α → Prop
  | _, .appendIndex _ => False
  | _, _ => True

theorem unindexed_writeFile (name : String) (content : Content) :
    (Act.writeFile name content).Unindexed := trivial

theorem unindexed_neutral (n : Nat) :
    Neutral (counting py) t Act.Unindexed fun s => n ≤ s.sequence := by
  intro α a ha s hinv hn
  refine ⟨careful_of_le a hinv, fun env r s' _ hexec => ?_⟩
  have hkept : s'.index = s.index ∧ s.sequence ≤ s'.sequence := by
    obtain ⟨-, rfl⟩ := Prod.mk.inj hexec
    cases a with
    | nextSequence path => exact ⟨rfl, Nat.le_succ _⟩
    | writeFile name content =>
      dsimp only
      cases env.raises <;> exact ⟨rfl, le_rfl⟩
    | utcNow => exact ⟨rfl, le_rfl⟩
    | appendIndex r => exact ha.elim
  exact ⟨⟨hkept.2, fun r hr => (hinv r (hkept.1 ▸ hr)).trans hkept.2⟩, hn.trans hkept.2⟩

theorem count_stable (n : Nat) : Stable (counting py) t fun s => n ≤ s.sequence :=
  fun _ _ h hrely => h.trans hrely

theorem unindexed_safe {α : Type} {p : Prog Act String α} (hp : p.All Act.Unindexed) {n : Nat}
    (h : n ≤ s.sequence) : Safe (counting py) t p (fun _ s => n ≤ s.sequence) s :=
  Safe.of_all (count_stable n) (unindexed_neutral n) hp h

theorem counting_nextSequence (path : String) : Safe (counting py) t (call (.nextSequence path))
    (fun r s => ∀ n, r = .ok n → n ≤ s.sequence) s := by
  refine Safe.call fun s₁ _ hinv => ⟨careful_of_le (.nextSequence path) hinv,
    fun env r s₂ _ hexec => ?_⟩
  obtain ⟨rfl, rfl⟩ := Prod.mk.inj hexec
  refine ⟨⟨Nat.le_succ _, fun r hr => Nat.le_succ_of_le (hinv r hr)⟩, fun n hn => ?_⟩
  exact le_of_eq (Except.ok.inj hn).symm

theorem counting_appendIndex {r : Record} (h : r.sequence ≤ s.sequence) :
    Safe (counting py) t (call (.appendIndex r)) (fun _ _ => True) s := by
  refine Safe.call fun s₁ hrely hinv => ⟨trivial, fun env res s₂ _ hexec => ⟨?_, trivial⟩⟩
  rcases @appendIndex_cases py s₁ s₂ t env r res hexec with rfl | rfl
  · exact ⟨le_rfl, hinv⟩
  · refine ⟨le_rfl, fun r' hr' => ?_⟩
    rcases List.mem_append.mp hr' with hr' | hr'
    · exact hinv r' hr'
    · exact List.mem_singleton.mp hr' ▸ h.trans hrely

theorem counting_safe (req : Request) :
    Safe (counting py) t (writeRequest py req) (fun _ _ => True) s := by
  have hpreview : ∀ contentType name decoded,
      (writePreview py contentType name decoded).All Act.Unindexed := by
    intro contentType name decoded
    unfold writePreview
    split
    · exact Prog.All.bind (Prog.all_call.mpr trivial) fun _ => trivial
    · trivial
  have hone : ∀ {α : Type} (a : Act α), a.Unindexed → (call a : Prog Act String α).All Act.Unindexed :=
    fun _ ha => Prog.all_call.mpr ha
  unfold writeRequest
  refine Safe.seq (counting_nextSequence req.requestPath) (fun n s hn => ?_) fun _ _ _ => trivial
  refine Safe.seq (unindexed_safe (hone _ (unindexed_writeFile _ _)) (hn n rfl)) (fun _ s hn => ?_) fun _ _ _ => trivial
  refine Safe.seq (unindexed_safe (hpreview _ _ _) hn) (fun preview s hn => ?_) fun _ _ _ => trivial
  refine Safe.seq (unindexed_safe (hone .utcNow trivial) hn) (fun now s hn => ?_) fun _ _ _ => trivial
  refine Safe.seq (unindexed_safe (hone _ (unindexed_writeFile _ _)) hn) (fun _ s hn => ?_) fun _ _ _ => trivial
  refine Safe.seq (counting_appendIndex (r := req.record py n now preview) hn) (fun _ _ _ => trivial)
    fun _ _ _ => trivial

theorem counting_sound : (counting py).Sound (fun _ => True) False where
  safe := by
    intro req _ t s _ _
    have hsafe : Safe (counting py) t ((receiver py).program req) (fun _ _ => True) s :=
      Safe.seq (counting_safe req) (fun _ _ _ => trivial) fun _ _ _ => trivial
    exact hsafe.mono fun _ s _ hs => ⟨hs, trivial, fun _ _ => le_rfl⟩
  restart h := h.elim

end Counting

/-- In every run of one process, each request is given a prefix that no record has. -/
theorem careful_of_started_once (events : List (Event Env Request))
    (honce : ∀ ev ∈ events, ev ≠ .restart) :
    Config.Along (receiver py) (CarefulEvent py) events (Config.initial .initial) := by
  have hinit : (counting py).Holds (Config.initial .initial) :=
    Contract.holds_initial (fun r hr => absurd hr List.not_mem_nil) fun _ => trivial
  have hpermits : ∀ (events : List (Event Env Request)) (c : Config Act String Receiver),
      (∀ ev ∈ events, ev ≠ .restart) →
        Config.Along (receiver py) ((counting py).Permits (fun _ => True) False) events c := by
    intro events
    induction events with
    | nil => exact fun _ _ => trivial
    | cons ev events ih =>
      refine fun c h => ⟨?_, ih _ fun ev' hev' => h ev' (List.mem_cons_of_mem _ hev')⟩
      cases ev with
      | spawn req => trivial
      | step t env => exact fun _ _ _ _ => trivial
      | restart => exact h .restart List.mem_cons_self rfl
  refine counting_sound.along_of_holds (fun c ev _ hc => ?_) (hpermits events _ honce) hinit
  cases ev with
  | step t env => exact hc.check t
  | spawn req => trivial
  | restart => trivial

/-! ## A second process -/

/-- The bodies of the records are in different files. -/
theorem Captured.bodies_nodup {s : Receiver} (h : Captured py s) :
    (s.index.map Record.rawBodyFile).Nodup := by
  refine List.pairwise_map.mpr (h.distinct.imp fun {r r'} hdisjoint heq => ?_)
  refine hdisjoint (List.mem_cons_self : r.rawBodyFile ∈ r.files) ?_
  rw [heq]
  exact List.mem_cons_self

section Examples

/-- The digests of the bodies below; nothing is compressed. -/
def digest : List UInt8 → String
  | [1] => "4bf5122f344554c53bde2ebb8cd2b7e3d1600ad631c385a5d7cce23c7785459a"
  | [2, 3] => "ee9040f65c341855e070ff438eb0ea9d5b831b2a2c270fb7ef592d750408e3b3"
  | [4] => "e52d9c508c502347344d8c07ad91cbd6068afc75ff6292f062a09ca381c89e71"
  | _ => ""

/-- Python on requests in ASCII. -/
def plainPython : Python where
  isalnum := Char.isAlphanum
  stripLower := id
  sha256 := digest
  gunzip := .ok
  inflate := .ok
  decodeUtf8 data := String.ofList (data.map fun b => Char.ofNat b.toNat)

/-- A request that is handled to its end by thread `t`. -/
def handled (t : ThreadId) (path : String) (data : List UInt8) : List (Event Env Request) :=
  .spawn { requestPath := path, rawBody := data } :: List.replicate 5 (.step t {})

/-- The receiver is started again, and gets a request for the same path. -/
def startedAgain : List (Event Env Request) :=
  handled 0 "/v1/logs" [1] ++ .restart :: handled 1 "/v1/logs" [2, 3]

theorem capture_overwritten : ¬ Captured plainPython
    (Config.run (receiver plainPython) startedAgain (Config.initial .initial)).shared :=
  fun h => absurd h.bodies_nodup (by decide +kernel)

/-- Two handlers take turns; then the receiver is started again, and gets a request for another path. -/
def otherPath : List (Event Env Request) :=
  [.spawn { requestPath := "/v1/logs", rawBody := [1] },
    .spawn { requestPath := "/v1/logs", rawBody := [2, 3] }, .step 0 {}, .step 1 {}] ++
    List.replicate 4 (.step 1 {}) ++ List.replicate 4 (.step 0 {}) ++
    .restart :: handled 2 "/v1/traces" [4]

theorem captured_otherPath : Captured plainPython
    (Config.run (receiver plainPython) otherPath (Config.initial .initial)).shared :=
  never_overwritten plainPython otherPath (by decide +kernel)

end Examples

end Otel
