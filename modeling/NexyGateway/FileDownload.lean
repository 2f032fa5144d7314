import Mathlib.Data.List.Infix
import NexyGateway.BlobDownload
import NexyGateway.PosixPath

/-!
# Download requests

`ca.download-file` takes its uri from the cloud. `download_file` checks type, scheme, host, file
name and the place of the destination before it hands the request to `download_from_blob`.
-/
namespace NexyGateway.FileDownload

open BlobDownload
open PosixPath (joinPath)

inductive MrhCode where
  | NO_ERR
  | ARG_ERR
  | TYPE_ERR
  | URL_ERR
  | FILE_NAME_ERR
  | SIZE_ERR
  | DOWNLOAD_ERR
  deriving DecidableEq, Repr

/-! ### `Config` -/

def downloadRoot : String := "/data/downloads"

def downloadTypeDirs : List (String × String) :=
  [("0x07", "up"), ("0x08", "liftAgent"), ("0x0B", "script")]

def downloadHostAllowlist : List String := ["*.blob.core.windows.net"]

/-! ### What the checks rest on -/

structure Url where
  scheme : String
  hostname : Option String
  path : String

/-- A function that raises is `none` there. -/
structure Library where
  urlparse : String → Option Url
  unquote : String → String
  fnmatch : String → String → Bool
  realpath : String → Option String

/-- Only a pattern of stars matches the empty name, and a resolved path is spelled canonically. -/
structure Library.Lawful (lib : Library) : Prop where
  fnmatch_empty : ∀ pattern, lib.fnmatch "" pattern = true → ∀ c ∈ pattern.toList, c = '*'
  realpath_canonical : ∀ path resolved, lib.realpath path = some resolved →
    PosixPath.Canonical resolved.toList

/-- `os.path.basename` -/
def basename (p : String) : String := String.ofList (PosixPath.basename p.toList)

/-- `str.lower` as far as the searched texts go: no letter beyond ASCII lowers into them. -/
def lower (s : String) : List Char := s.toList.map Char.toLower

/-! ### The checks -/

variable (lib : Library)

def hostAllowed (host : String) : Bool := downloadHostAllowlist.any (lib.fnmatch host)

def safeFilename (uri : String) : Option (Option String) :=
  (lib.urlparse uri).map fun url =>
    if "%2f".toList <:+: lower url.path ∨ "%5c".toList <:+: lower url.path then none
    else
      let name := basename (lib.unquote url.path)
      if name = "" ∨ name = "." ∨ name = ".." ∨ '/' ∈ name.toList ∨ '\\' ∈ name.toList then none
      else some name

/-- The name and the destination of an accepted request; an exception is `none`. -/
def checkRequest (uri typeCode : String) : Option (Except MrhCode (String × String)) :=
  match downloadTypeDirs.lookup typeCode with
  | none => some (.error .TYPE_ERR)
  | some subdir =>
    match lib.urlparse uri with
    | none => none
    | some parsed =>
      if parsed.scheme ≠ "https" then some (.error .URL_ERR)
      else if !hostAllowed lib (parsed.hostname.getD "") then some (.error .URL_ERR)
      else
        match safeFilename lib uri with
        | none => none
        | some none => some (.error .FILE_NAME_ERR)
        | some (some filename) =>
          let targetDir := joinPath downloadRoot subdir
          let fullpath := joinPath targetDir filename
          match lib.realpath fullpath, lib.realpath targetDir with
          | some resolved, some dir =>
            if !(dir ++ "/").toList.isPrefixOf resolved.toList then some (.error .FILE_NAME_ERR)
            else some (.ok (filename, fullpath))
          | _, _ => none

/-- What the blob says about its size, if it answers. -/
inductive Properties where
  | failed
  | size (n : Option Nat)

structure Reply where
  filename : Option String
  fullpath : Option String
  code : MrhCode

def refuse (code : MrhCode) : Reply := ⟨none, none, code⟩

/-- A call of `download_from_blob`. -/
structure Call where
  uri : String
  destination : String
  maxBytes : Nat

structure Result where
  reply : Option Reply
  calls : List Call
  files : Files

def downloadFile (uri typeCode : String) (maxBytes : Nat) (props : Properties) (files : Files)
    (w : World) : Result :=
  match checkRequest lib uri typeCode with
  | none => ⟨none, [], files⟩
  | some (.error code) => ⟨some (refuse code), [], files⟩
  | some (.ok (filename, fullpath)) =>
    match props with
    | .failed => ⟨some (refuse .DOWNLOAD_ERR), [], files⟩
    | .size n =>
      if n.any (maxBytes < ·) then ⟨some (refuse .SIZE_ERR), [], files⟩
      else
        let (ok, files) := downloadFromBlob files fullpath (some maxBytes) w
        ⟨some (if ok then ⟨some filename, some fullpath, .NO_ERR⟩ else refuse .DOWNLOAD_ERR),
          [⟨uri, fullpath, maxBytes⟩], files⟩

/-! ### Containment -/

/-- A file name that stays where it is put. -/
structure SingleComponent (name : String) : Prop where
  named : name ≠ ""
  notHere : name ≠ "."
  notUp : name ≠ ".."
  noSlash : '/' ∉ name.toList
  noBackslash : '\\' ∉ name.toList

/-- The resolved path leads to a place below the resolved directory. -/
def StrictlyInside (path dir : String) : Prop :=
  ∃ resolved resolvedDir extra, lib.realpath path = some resolved ∧
    lib.realpath dir = some resolvedDir ∧ extra ≠ [] ∧
    PosixPath.place resolved.toList = PosixPath.place resolvedDir.toList ++ extra

structure Contained (typeCode : String) (call : Call) : Prop where
  source : ∃ url host, lib.urlparse call.uri = some url ∧ url.scheme = "https" ∧
    url.hostname = some host ∧ ∃ pattern ∈ downloadHostAllowlist, lib.fnmatch host pattern = true
  destination : ∃ subdir name, downloadTypeDirs.lookup typeCode = some subdir ∧
    SingleComponent name ∧ call.destination = downloadRoot ++ "/" ++ subdir ++ "/" ++ name ∧
    StrictlyInside lib call.destination (downloadRoot ++ "/" ++ subdir)

variable {lib} {uri typeCode : String}

theorem hostAllowed_cases (hlib : lib.Lawful) {hostname : Option String}
    (h : hostAllowed lib (hostname.getD "") = true) :
    ∃ host, hostname = some host ∧ ∃ pattern ∈ downloadHostAllowlist,
      lib.fnmatch host pattern = true := by
  obtain ⟨pattern, hmem, hmatch⟩ := List.any_eq_true.mp h
  cases hostname with
  | some host => exact ⟨host, rfl, pattern, hmem, hmatch⟩
  | none =>
    -- no name at all is matched by stars only, and the pattern has letters
    have hstars := hlib.fnmatch_empty pattern hmatch
    rw [downloadHostAllowlist, List.mem_singleton] at hmem
    subst hmem
    exact absurd (hstars '.' (by decide)) (by decide)

theorem safeFilename_single {name : String} (h : safeFilename lib uri = some (some name)) :
    SingleComponent name := by
  obtain ⟨url, -, hname⟩ := Option.map_eq_some_iff.mp h
  split at hname
  · cases hname
  · simp only at hname
    split at hname
    · cases hname
    · next hgood =>
      cases hname
      simp only [not_or] at hgood
      obtain ⟨hempty, hdot, hup, hslash, hback⟩ := hgood
      exact ⟨hempty, hdot, hup, hslash, hback⟩

theorem joinPath_eq {a b : String} (ha : a ≠ "" ∧ a.toList.getLast? ≠ some '/')
    (hb : '/' ∉ b.toList) : joinPath a b = a ++ "/" ++ b := by
  have hrelative : PosixPath.isAbsolute b.toList = false := by
    rw [PosixPath.isAbsolute, decide_eq_false_iff_not]
    exact fun h => hb (List.mem_of_head? h)
  have hne : a.toList ≠ [] := by simpa using ha.1
  apply String.toList_inj.mp
  simp [joinPath, PosixPath.join, hrelative, hne, ha.2]

theorem typeDir_join : ∀ subdir ∈ downloadTypeDirs.map Prod.snd,
    joinPath downloadRoot subdir = downloadRoot ++ "/" ++ subdir ∧
      downloadRoot ++ "/" ++ subdir ≠ "" ∧
        (downloadRoot ++ "/" ++ subdir).toList.getLast? ≠ some '/' := by
  decide

theorem lookup_typeDir {subdir : String} (h : downloadTypeDirs.lookup typeCode = some subdir) :
    subdir ∈ downloadTypeDirs.map Prod.snd := by
  obtain ⟨front, back, hdirs, -⟩ := List.lookup_eq_some_iff.mp h
  rw [hdirs, List.map_append, List.map_cons]
  exact List.mem_append_right _ List.mem_cons_self

/-- What has passed the prefix check is below the directory. -/
theorem strictlyInside_of_prefix (hlib : lib.Lawful) {path dir resolved resolvedDir : String}
    (hpath : lib.realpath path = some resolved) (hdir : lib.realpath dir = some resolvedDir)
    (h : (resolvedDir ++ "/").toList.isPrefixOf resolved.toList = true) :
    StrictlyInside lib path dir := by
  rw [List.isPrefixOf_iff_prefix, String.toList_append] at h
  obtain ⟨extra, hne, hplace⟩ := (hlib.realpath_canonical _ _ hpath).inside
    (hlib.realpath_canonical _ _ hdir) h
  exact ⟨resolved, resolvedDir, extra, hpath, hdir, hne, hplace⟩

theorem checkRequest_contained (hlib : lib.Lawful) {filename fullpath : String}
    (h : checkRequest lib uri typeCode = some (.ok (filename, fullpath))) (maxBytes : Nat) :
    Contained lib typeCode ⟨uri, fullpath, maxBytes⟩ := by
  unfold checkRequest at h
  split at h
  · cases h
  rename_i subdir hsubdir
  split at h
  · cases h
  rename_i parsed hparsed
  split at h
  · cases h
  rename_i hscheme
  split at h
  · cases h
  rename_i hhost
  split at h
  · cases h
  · cases h
  rename_i name hname
  simp only at h
  split at h
  case h_2 => cases h
  rename_i resolved dir hresolved hdir
  split at h
  · cases h
  rename_i hinside
  cases h
  obtain ⟨htarget, hended⟩ := typeDir_join subdir (lookup_typeDir hsubdir)
  have hsingle := safeFilename_single hname
  rw [htarget] at hresolved hdir ⊢
  obtain ⟨host, hhostname, hpattern⟩ := hostAllowed_cases hlib (by simpa using hhost)
  refine ⟨⟨parsed, host, hparsed, not_not.mp hscheme, hhostname, hpattern⟩, ?_⟩
  refine ⟨subdir, _, hsubdir, hsingle, joinPath_eq hended hsingle.noSlash, ?_⟩
  exact strictlyInside_of_prefix hlib hresolved hdir (by simpa using hinside)

/-- Every download is contained, and a path that is returned holds what was transferred to it. -/
theorem downloadFile_contained (lib : Library) (hlib : lib.Lawful) (uri typeCode : String)
    (maxBytes : Nat) (props : Properties) (files : Files) (w : World) :
    (∀ call ∈ (downloadFile lib uri typeCode maxBytes props files w).calls,
      call.uri = uri ∧ Contained lib typeCode call) ∧
    ∀ reply path, (downloadFile lib uri typeCode maxBytes props files w).reply = some reply →
      reply.fullpath = some path →
        (∃ call ∈ (downloadFile lib uri typeCode maxBytes props files w).calls,
          call.destination = path) ∧
        (downloadFromBlob files path (some maxBytes) w).1 = true ∧
        (downloadFile lib uri typeCode maxBytes props files w).files path =
          some (received w.turns) := by
  unfold downloadFile
  split
  · exact ⟨by simp, by simp⟩
  · next code hcheck =>
    refine ⟨by simp, ?_⟩
    rintro reply path hreply hpath
    cases hreply
    cases hpath
  · next filename fullpath hcheck =>
    have hrefused : ∀ code reply path, some (refuse code) = some reply →
        reply.fullpath = some path → False := by
      rintro code reply path hreply hpath
      cases hreply
      cases hpath
    cases props with
    | failed => exact ⟨by simp, fun reply path h hpath => (hrefused _ reply path h hpath).elim⟩
    | size n =>
      simp only
      split
      · exact ⟨by simp, fun reply path h hpath => (hrefused _ reply path h hpath).elim⟩
      · constructor
        · intro call hcall
          rw [List.mem_singleton.mp hcall]
          exact ⟨rfl, checkRequest_contained hlib hcheck maxBytes⟩
        · intro reply path hreply hpath
          cases hok : (downloadFromBlob files fullpath (some maxBytes) w).1 with
          | false =>
            simp only [hok] at hreply
            exact (hrefused _ reply path hreply hpath).elim
          | true =>
            simp only [hok] at hreply
            cases hreply
            cases hpath
            exact ⟨⟨_, List.mem_singleton_self _, rfl⟩, hok, (stored_of_succeeded hok).1⟩

/-- The functions on one address of the allowed host. -/
def scriptLibrary : Library where
  urlparse uri :=
    if uri = "https://acct.blob.core.windows.net/c/leds.sh" then
      some ⟨"https", some "acct.blob.core.windows.net", "/c/leds.sh"⟩
    else none
  unquote path := path
  fnmatch host pattern :=
    host = "acct.blob.core.windows.net" && pattern = "*.blob.core.windows.net"
  realpath path :=
    if path = "/data/downloads/script/leds.sh" ∨ path = "/data/downloads/script" then some path
    else none

theorem scriptLibrary_lawful : scriptLibrary.Lawful where
  fnmatch_empty pattern h := by simp [scriptLibrary] at h
  realpath_canonical path resolved h := by
    simp only [scriptLibrary, Option.ite_none_right_eq_some, Option.some.injEq] at h
    obtain ⟨rfl | rfl, rfl⟩ := h <;> decide

def scriptResult : Result :=
  downloadFile scriptLibrary "https://acct.blob.core.windows.net/c/leds.sh" "0x0B" 1000
    (.size (some 2)) (fun _ => none) { turns := [⟨some [1, 2], 0, none⟩] }

theorem downloadFile_contained_script :
    scriptResult.reply.bind Reply.fullpath = some "/data/downloads/script/leds.sh" ∧
      (∀ call ∈ scriptResult.calls, call.uri = "https://acct.blob.core.windows.net/c/leds.sh" ∧
        Contained scriptLibrary "0x0B" call) ∧
      scriptResult.files "/data/downloads/script/leds.sh" = some [1, 2] := by
  have hpath : scriptResult.reply.bind Reply.fullpath = some "/data/downloads/script/leds.sh" := by
    decide +kernel
  refine ⟨hpath, ?_⟩
  obtain ⟨reply, hreply, hfull⟩ := Option.bind_eq_some_iff.mp hpath
  unfold scriptResult at hreply ⊢
  obtain ⟨hcalls, hstored⟩ := downloadFile_contained scriptLibrary scriptLibrary_lawful
    "https://acct.blob.core.windows.net/c/leds.sh" "0x0B" 1000 (.size (some 2)) (fun _ => none)
    { turns := [⟨some [1, 2], 0, none⟩] }
  exact ⟨hcalls, (hstored reply _ hreply hfull).2.2⟩

end NexyGateway.FileDownload
