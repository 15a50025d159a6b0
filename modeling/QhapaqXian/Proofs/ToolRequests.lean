import QhapaqXian.Proofs.Authorization
import QhapaqXian.ToolRequest

/-!
# What the runner reads of a request

The engine writes one line for each field and escapes nothing; the runner reads the lines through a
buffer of 511 characters and copies the values into fields of fixed size.
-/

namespace QhapaqXian

open Library

variable {value : CString} {key : RequestKey}

/-- The text fields of a request that the runner acts on. -/
inductive ListedField
  | tool
  | handler
  | principal
  | provider
  | endpoint
  | receiptAlg
  | receiptNonce
  | receiptKey
  | receiptSigner
  deriving Repr, DecidableEq

namespace ListedField

def requestKey : ListedField → RequestKey
  | tool => .tool
  | handler => .handler
  | principal => .principal
  | provider => .provider
  | endpoint => .providerEndpoint
  | receiptAlg => .receiptAlg
  | receiptNonce => .receiptNonce
  | receiptKey => .receiptKey
  | receiptSigner => .receiptSigner

def size : ListedField → Nat
  | tool => 128
  | handler => 256
  | principal => 128
  | provider => 128
  | endpoint => 256
  | receiptAlg => 64
  | receiptNonce => 256
  | receiptKey => 256
  | receiptSigner => 260

def written (request : ToolRequest) : ListedField → CString
  | tool => request.tool
  | handler => request.handler
  | principal => request.principal
  | provider => request.provider
  | endpoint => request.providerEndpoint
  | receiptAlg => request.receiptAlg
  | receiptNonce => request.receiptNonce
  | receiptKey => request.receiptKey
  | receiptSigner => request.receiptSigner

def read (request : RunnerRequest) : ListedField → CString
  | tool => request.tool
  | handler => request.handler
  | principal => request.principal
  | provider => request.provider
  | endpoint => request.providerEndpoint
  | receiptAlg => request.receiptAlg
  | receiptNonce => request.receiptNonce
  | receiptKey => request.receiptKey
  | receiptSigner => request.receiptSigner

end ListedField

section Reader

lemma RequestKey.ofName?_name (key : RequestKey) : ofName? key.name = some key := by
  cases key <;> decide

lemma assignNamed_reads {γ : Type} (get : RunnerRequest → γ) {set : CString → γ}
    {own : RequestKey}
    (h : ∀ request key value, get (RunnerRequest.assign request key value) =
      if key = own then set value else get request) (request : RunnerRequest)
    (entry : CString × CString) :
    get (request.assignNamed entry) = if entry.1 = own.name then set entry.2 else get request := by
  have hstep : request.assignNamed entry =
      (RequestKey.ofName? entry.1).elim request fun key => request.assign key entry.2 := by
    unfold RunnerRequest.assignNamed
    cases RequestKey.ofName? entry.1 <;> rfl
  have hof : ∀ text key, RequestKey.ofName? text = some key ↔ text = key.name :=
    fun _ _ => find?_name_eq_some_iff RequestKey.ofName?_name
  rw [hstep, read_assign_named get hof
    (fun request key value hne => (h request key value).trans (if_neg hne)), h, if_pos rfl]

/-- The field that a key of the request file is copied into; empty for those that are not text. -/
def RunnerRequest.textOf (request : RunnerRequest) : RequestKey → CString
  | .phase => request.phase
  | .tool => request.tool
  | .handler => request.handler
  | .sandbox => request.sandbox
  | .principal => request.principal
  | .principalRuntime => request.principalRuntime
  | .provider => request.provider
  | .providerKind => request.providerKind
  | .providerEndpoint => request.providerEndpoint
  | .dockerCli => request.dockerCli
  | .dockerHost => request.dockerHost
  | .containerImage => request.containerImage
  | .qemuCli => request.qemuCli
  | .microvmKernel => request.microvmKernel
  | .microvmInitrd => request.microvmInitrd
  | .microvmAccel => request.microvmAccel
  | .receiptSchema => request.receiptSchema
  | .receiptAlg => request.receiptAlg
  | .receiptNonce => request.receiptNonce
  | .receiptKey => request.receiptKey
  | .receiptSigner => request.receiptSigner
  | .launchRequestFile => request.launchRequestFile
  | _ => []

def RequestKey.size : RequestKey → Nat
  | .phase | .microvmAccel => 32
  | .sandbox | .principalRuntime | .providerKind | .receiptSchema | .receiptAlg => 64
  | .tool | .principal | .provider | .containerImage => 128
  | .handler | .providerEndpoint | .receiptNonce | .receiptKey => 256
  | .dockerCli | .dockerHost | .qemuCli | .microvmKernel | .microvmInitrd | .receiptSigner
  | .launchRequestFile => 260
  | _ => 0

lemma textOf_assign (request : RunnerRequest) (key : RequestKey) (value : CString)
    {own : RequestKey} (hown : own.size ≠ 0) :
    (request.assign key value).textOf own =
      if key = own then intoBuffer own.size value else request.textOf own := by
  cases own <;> first | exact absurd rfl hown | (cases key <;> rfl)

/-- What neither the launch request nor the environment changes. -/
def RunnerRequest.kept (request : RunnerRequest) :
    (RequestKey → CString) × Int × Int × Bool × Bool :=
  ({ request with containerImage := [], launchRequestFile := [] }.textOf, request.taskOid,
    request.goalLength, request.inputPresent, request.requireAttestation)

lemma kept_assignLaunchNamed (request : RunnerRequest) (entry : CString × CString) :
    (request.assignLaunchNamed entry).kept = request.kept := by
  unfold RunnerRequest.assignLaunchNamed
  cases LaunchKey.ofName? entry.1 with
  | none => rfl
  | some key =>
    cases key with
    | seccompMode | cgroupMode | imageRef =>
      simp only [RunnerRequest.assignLaunch]
      split_ifs <;> rfl
    | _ => rfl

lemma kept_readLaunchFile (files : Files) (request : RunnerRequest) :
    (request.readLaunchFile files).kept = request.kept := by
  unfold RunnerRequest.readLaunchFile
  split_ifs
  · rfl
  · cases files request.launchRequestFile with
    | none => rfl
    | some contents =>
      show (parseLaunchRequestFile contents request).kept = request.kept
      exact foldl_keeps kept_assignLaunchNamed _ _

lemma kept_parseRequestContents (files : Files) (getenv : Environ) (contents : CString) :
    (parseRequestContents files getenv contents).kept = (parseRequestLines contents).kept := by
  unfold parseRequestContents RunnerRequest.readLaunchEnvironment
  dsimp only
  split_ifs
  · rw [kept_readLaunchFile]
    rfl
  · rw [kept_readLaunchFile]
    exact kept_readLaunchFile files _

def lastAssigned (contents : CString) (key : RequestKey) : Option CString :=
  lastOf key.name (assignments '\n' 511 parseRequestLine contents)

lemma textOf_parseRequestLines (contents : CString) (hkey : key.size ≠ 0) :
    (parseRequestLines contents).textOf key =
      ((lastAssigned contents key).map (intoBuffer key.size)).getD [] := by
  let get (request : RunnerRequest) := request.textOf key
  have hassign : ∀ request other value, get (RunnerRequest.assign request other value) =
      if other = key then intoBuffer key.size value else get request :=
    fun request other value => textOf_assign request other value hkey
  have hempty : get .initial = [] := by cases key <;> rfl
  have hread : get (parseRequestLines contents) =
      ((lastAssigned contents key).map (intoBuffer key.size)).getD (get .initial) :=
    foldl_eq_lastOf (assignNamed_reads get hassign) _ _
  exact hempty ▸ hread

lemma textOf_parseRequestContents (files : Files) (getenv : Environ) (contents : CString)
    (hkey : key.size ≠ 0) (himage : key ≠ .containerImage) (hlaunch : key ≠ .launchRequestFile) :
    (parseRequestContents files getenv contents).textOf key =
      ((lastAssigned contents key).map (intoBuffer key.size)).getD [] := by
  have hkept : ∀ request : RunnerRequest, request.kept.1 key = request.textOf key := by
    intro request
    cases key <;> first | rfl | contradiction
  rw [← textOf_parseRequestLines contents hkey, ← hkept, ← hkept,
    kept_parseRequestContents files getenv contents]

lemma read_parseRequestContents (files : Files) (getenv : Environ) (contents : CString)
    (field : ListedField) :
    field.read (parseRequestContents files getenv contents) =
      ((lastAssigned contents field.requestKey).map (intoBuffer field.size)).getD [] := by
  have hread : ∀ request, field.read request = request.textOf field.requestKey := by
    cases field <;> exact fun _ => rfl
  have hsize : field.size = field.requestKey.size := by cases field <;> rfl
  rw [hread, hsize]
  refine textOf_parseRequestContents files getenv contents ?_ ?_ ?_ <;> cases field <;> decide

lemma requireAttestation_parseRequestContents (files : Files) (getenv : Environ)
    (contents : CString) :
    (parseRequestContents files getenv contents).requireAttestation =
      ((lastAssigned contents .requireAttestation).map (· == "true".toList)).getD false := by
  have hassign : ∀ request key value,
      (RunnerRequest.assign request key value).requireAttestation =
        if key = .requireAttestation then value == "true".toList
        else request.requireAttestation := by
    intro request key value
    cases key <;> rfl
  have hkept := congrArg (·.2.2.2.2) (kept_parseRequestContents files getenv contents)
  exact hkept.trans (foldl_eq_lastOf (assignNamed_reads _ hassign) _ _)

end Reader

section Writer

lemma RequestKey.plain (key : RequestKey) :
    '=' ∉ key.name ∧ '\n' ∉ key.name ∧ key.name.length < 32 := by
  cases key <;> decide

lemma parseRequestLine_renderField {key : CString} (hkey : '=' ∉ key) (value : CString) :
    parseRequestLine (renderField '=' (key, value)) =
      [(key, value.takeWhile fun c => !isLineBreak c)] := by
  rw [parseRequestLine, splitAssignment_renderField hkey]

lemma ownFirst_requestLine (key : RequestKey) (value : CString) :
    OwnFirst '\n' 511 parseRequestLine '=' (key.name, value) := by
  obtain ⟨heq, hbreak, hlength⟩ := key.plain
  exact ownFirst_of_parse hbreak (by decide) (by omega)
    (fun more => ⟨_, [], parseRequestLine_renderField heq more⟩) value

lemma isLineBreak_of_mem_assignments {contents : CString} {entry : CString × CString}
    (h : entry ∈ assignments '\n' 511 parseRequestLine contents) :
    ∀ c ∈ entry.2, isLineBreak c = false := by
  obtain ⟨line, -, hentry⟩ := List.mem_flatMap.mp h
  unfold parseRequestLine at hentry
  cases hsplit : splitAssignment '=' line with
  | none => simp [hsplit] at hentry
  | some assignment =>
    rw [hsplit, List.mem_singleton] at hentry
    intro c hc
    rw [hentry] at hc
    have hkept := List.mem_takeWhile_imp hc
    simpa using hkept

lemma assignments_requestLine (hclean : ∀ c ∈ value, isLineBreak c = false)
    (hfits : value.length < 400) :
    assignments '\n' 511 parseRequestLine (renderLine '=' '\n' (key.name, value)) =
      [(key.name, value)] := by
  obtain ⟨heq, hbreak, hlength⟩ := key.plain
  have hvalue : '\n' ∉ value := fun hmem => by simpa [isLineBreak] using hclean _ hmem
  have htext : '\n' ∉ renderField '=' (key.name, value) := by simp [renderField, hbreak, hvalue]
  have hline : renderField '=' (key.name, value) ++ ['\n'] =
      renderField '=' (key.name, value ++ ['\n']) := by simp [renderField]
  have htake : (value ++ ['\n']).takeWhile (fun c => !isLineBreak c) = value := by
    rw [List.takeWhile_append_of_pos (by simpa using hclean)]
    simp [isLineBreak]
  rw [renderLine, assignments_of_fits htext (by simp [renderField]; omega), hline,
    parseRequestLine_renderField heq, htake]

variable (request : ToolRequest) (backend : BackendLines)

/-- The keys that every request has, in the order they are written. -/
def RequestKey.ofRequest : List RequestKey :=
  [.phase, .taskOid, .goalLength, .inputPresent, .tool, .handler, .sandbox, .principal,
    .principalRuntime, .provider, .providerKind, .providerEndpoint, .requireAttestation,
    .receiptSchema, .receiptAlg, .receiptNonce, .receiptKey, .receiptSigner]

def RequestKey.ofContainer : List RequestKey :=
  [.dockerCli, .dockerHost, .containerImage]

def RequestKey.ofMicrovm : List RequestKey :=
  [.qemuCli, .microvmKernel, .microvmInitrd, .microvmAccel]

def RequestKey.written : List RequestKey :=
  ofRequest ++ (ofContainer ++ ofMicrovm ++ [launchRequestFile])

lemma lines_keys_sublist :
    ((request.lines ++ backend.lines).map Prod.fst).Sublist
      (RequestKey.written.map RequestKey.name) := by
  rw [RequestKey.written, List.map_append, List.map_append]
  refine .append (.refl _) ?_
  obtain ⟨container, microvm, path⟩ := backend
  rw [BackendLines.lines, List.map_append, List.map_append, List.map_append, List.map_append]
  refine .append (.append ?_ ?_) ?_
  · cases container with
    | none => exact List.nil_sublist _
    | some _ => exact .refl _
  · cases microvm with
    | none => exact List.nil_sublist _
    | some _ => exact .refl _
  · dsimp only
    split_ifs
    · exact List.nil_sublist _
    · exact .refl _

lemma lines_keys_nodup : ((request.lines ++ backend.lines).map Prod.fst).Nodup := by
  have hinj : Function.Injective RequestKey.name := fun key other h => by
    have hname := key.ofName?_name
    rw [h, other.ofName?_name] at hname
    exact (Option.some.inj hname).symm
  exact (lines_keys_sublist request backend).nodup (List.Nodup.map hinj (by decide))

lemma lines_ownFirst : ∀ line ∈ request.lines ++ backend.lines,
    OwnFirst '\n' 511 parseRequestLine '=' line := by
  intro line hline
  obtain ⟨key, -, hkey⟩ := List.mem_map.mp
    ((lines_keys_sublist request backend).subset (List.mem_map_of_mem hline))
  have hown := ownFirst_requestLine key line.2
  rwa [hkey] at hown

/-- What the lines written behind the one of the key assign to it besides their own keys: the pieces
of a line behind a line break in its value or beyond the buffer of the runner. -/
def overriding (key : RequestKey) : Option CString :=
  lastOf key.name ((linesBehind key.name (request.lines ++ backend.lines)).flatMap
    (strays '\n' 511 parseRequestLine '='))

lemma lastAssigned_payload (hline : (key.name, value) ∈ request.lines) :
    lastAssigned (request.payload backend) key = (overriding request backend key).or
      (lastOf key.name (assignments '\n' 511 parseRequestLine
        (renderLine '=' '\n' (key.name, value)))) := by
  have hlast := lastOf_renderLines (lines_keys_nodup request backend)
    (List.mem_append_left backend.lines hline) (lines_ownFirst request backend)
  unfold lastAssigned ToolRequest.payload overriding
  exact hlast

def CleanLine (line : CString × CString) : Prop :=
  (∀ c ∈ line.2, isLineBreak c = false) ∧ line.2.length < 400

instance (line : CString × CString) : Decidable (CleanLine line) :=
  inferInstanceAs (Decidable (_ ∧ _))

lemma assignments_payload_of_clean
    (hclean : ∀ line ∈ request.lines ++ backend.lines, CleanLine line) :
    assignments '\n' 511 parseRequestLine (request.payload backend) =
      request.lines ++ backend.lines := by
  have hline : ∀ line ∈ request.lines ++ backend.lines,
      assignments '\n' 511 parseRequestLine (renderLine '=' '\n' line) = [line] := by
    intro line hline
    obtain ⟨key, -, hkey⟩ := List.mem_map.mp
      ((lines_keys_sublist request backend).subset (List.mem_map_of_mem hline))
    obtain ⟨name, value⟩ := line
    obtain rfl : key.name = name := hkey
    obtain ⟨hbreak, hfits⟩ := hclean _ hline
    exact assignments_requestLine hbreak hfits
  rw [ToolRequest.payload, assignments_renderLines, List.flatMap_congr hline]
  exact List.flatMap_singleton' _

lemma clean_of_read {contents : CString} {size : Nat} (hsize : 0 < size)
    (h : ((lastAssigned contents key).map (intoBuffer size)).getD [] = value) :
    (∀ c ∈ value, isLineBreak c = false) ∧ value.length < size := by
  subst h
  cases hlast : lastAssigned contents key with
  | none => exact ⟨List.forall_mem_nil _, hsize⟩
  | some last =>
    have hclean := isLineBreak_of_mem_assignments (mem_of_lastOf hlast)
    refine ⟨fun c hc => hclean c (List.mem_of_mem_take hc), ?_⟩
    have hlength := List.length_take_le (size - 1) last
    simp only [Option.map_some, Option.getD_some, intoBuffer]
    omega

lemma intoBuffer_of_lt {size : Nat} (h : value.length < size) :
    intoBuffer size value = value :=
  List.take_of_length_le (by omega)

lemma ListedField.mem_lines (field : ListedField) :
    (field.requestKey.name, field.written request) ∈ request.lines := by
  have hline : ∃ i : Nat,
      request.lines[i]? = some (field.requestKey.name, field.written request) := by
    cases field with
    | tool => exact ⟨4, rfl⟩
    | handler => exact ⟨5, rfl⟩
    | principal => exact ⟨7, rfl⟩
    | provider => exact ⟨9, rfl⟩
    | endpoint => exact ⟨11, rfl⟩
    | receiptAlg => exact ⟨14, rfl⟩
    | receiptNonce => exact ⟨15, rfl⟩
    | receiptKey => exact ⟨16, rfl⟩
    | receiptSigner => exact ⟨17, rfl⟩
  obtain ⟨i, hi⟩ := hline
  exact List.mem_of_getElem? hi

lemma read_eq_written_iff (files : Files) (getenv : Environ) (field : ListedField) :
    field.read (parseRequestContents files getenv (request.payload backend)) =
        field.written request ↔
      ((∀ c ∈ field.written request, isLineBreak c = false) ∧
        (field.written request).length < field.size) ∧
      ∀ other, overriding request backend field.requestKey = some other →
        intoBuffer field.size other = field.written request := by
  have hsize : 0 < field.size ∧ field.size < 400 := by cases field <;> decide
  have hlast := lastAssigned_payload request backend (field.mem_lines request)
  rw [read_parseRequestContents]
  constructor
  · intro h
    refine ⟨clean_of_read hsize.1 h, fun other hother => ?_⟩
    rw [hlast, hother] at h
    exact h
  · rintro ⟨⟨hclean, hfits⟩, hother⟩
    rw [assignments_requestLine hclean (by omega), lastOf_singleton, if_pos rfl] at hlast
    rw [hlast]
    cases hover : overriding request backend field.requestKey with
    | none => exact intoBuffer_of_lt hfits
    | some other => exact hother other hover

lemma requireAttestation_eq_written_iff (files : Files) (getenv : Environ) :
    (parseRequestContents files getenv (request.payload backend)).requireAttestation =
        request.requireAttestation ↔
      ∀ other, overriding request backend .requireAttestation = some other →
        (other == "true".toList) = request.requireAttestation := by
  have hclean : ∀ flag : Bool, (∀ c ∈ qxBoolLiteral flag, isLineBreak c = false) ∧
      (qxBoolLiteral flag).length < 400 ∧ (qxBoolLiteral flag == "true".toList) = flag := by
    decide
  obtain ⟨hchars, hfits, hflag⟩ := hclean request.requireAttestation
  have hline : (RequestKey.requireAttestation.name, qxBoolLiteral request.requireAttestation) ∈
      request.lines := List.mem_of_getElem? (i := 12) rfl
  have hlast := lastAssigned_payload request backend hline
  rw [assignments_requestLine hchars hfits, lastOf_singleton, if_pos rfl] at hlast
  rw [requireAttestation_parseRequestContents, hlast]
  cases overriding request backend .requireAttestation with
  | none => simpa using hflag
  | some other => simp

end Writer

/-- The runner has the fields of the request as the engine has them. -/
structure ToolRequest.ReadBy (request : ToolRequest) (runner : RunnerRequest) : Prop where
  fields : ∀ field : ListedField, field.read runner = field.written request
  requireAttestation : runner.requireAttestation = request.requireAttestation

/-- No field holds a line break, each fits its buffer, and what the lines behind it assign to its
key is the value that it has anyway. -/
structure ToolRequest.Undisturbed (request : ToolRequest) (backend : BackendLines) : Prop where
  clean : ∀ field : ListedField, ∀ c ∈ field.written request, isLineBreak c = false
  fits : ∀ field : ListedField, (field.written request).length < field.size
  fields : ∀ (field : ListedField) other,
    overriding request backend field.requestKey = some other →
      intoBuffer field.size other = field.written request
  requireAttestation : ∀ other, overriding request backend .requireAttestation = some other →
    (other == "true".toList) = request.requireAttestation

theorem runner_reads_written_iff (contract phase : CString) (taskoid : Oid) (goal : Option CString)
    (inputPresent : Bool) (receiptKey signerPath : CString) (backend : BackendLines)
    (files : Files) (getenv : Environ) :
    (qxToolRequest contract phase taskoid goal inputPresent receiptKey signerPath).ReadBy
        (parseRequestContents files getenv ((qxToolRequest contract phase taskoid goal inputPresent
          receiptKey signerPath).payload backend)) ↔
      (qxToolRequest contract phase taskoid goal inputPresent receiptKey signerPath).Undisturbed
        backend := by
  generalize qxToolRequest contract phase taskoid goal inputPresent receiptKey signerPath = request
  constructor
  · intro h
    have hfield field :=
      (read_eq_written_iff request backend files getenv field).mp (h.fields field)
    exact ⟨fun field => (hfield field).1.1, fun field => (hfield field).1.2,
      fun field => (hfield field).2,
      (requireAttestation_eq_written_iff request backend files getenv).mp h.requireAttestation⟩
  · intro h
    exact ⟨fun field => (read_eq_written_iff request backend files getenv field).mpr
        ⟨⟨h.clean field, h.fits field⟩, h.fields field⟩,
      (requireAttestation_eq_written_iff request backend files getenv).mpr h.requireAttestation⟩

def opsBrokenCatalog : PolicyCatalog :=
  opsCatalog [opsPolicy] [.createProvider opsProvider, .createPrincipal opsPrincipal,
    .createTool { opsTool with handler := "search\nTOOL=other".toList }]

/-- The commands accept a handler with a line break in it, and the runner takes the name of the tool
from the handler. -/
theorem handler_renames_tool :
    ((qxAuthorizeToolsForNamespace opsSession opsBrokenCatalog 7 2200 10
      ["search".toList]).toOption.any fun authz => authz.toolContracts.any fun contract =>
        let request := qxToolRequest contract "submit".toList 5 (some "find".toList) false
          "secret".toList []
        let runner := parseRequestContents (fun _ => none) (fun _ => none)
          (request.payload ⟨none, none, []⟩)
        request.tool == "search".toList && runner.tool == "other".toList &&
          runner.handler == "search".toList) = true := by
  decide +kernel

end QhapaqXian
