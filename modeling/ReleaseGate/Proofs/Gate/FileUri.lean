/-
ReleaseGate/Proofs/Gate/FileUri.lean

The file that a `file:` URI stands for.

The URI of a path is `file://` and the text of the path, in which each byte
of the characters that a URI does not have is escaped.  Taking the URI apart
and resolving its escapes gives the text again.  The search resolves the
escapes of what it gets a second time.  So a path is found under its URI if
and only if no escape is in its own text: with one, the file looked for is
that of another name.

Design.  A `file:` URI is looked up and nothing else (`file_found_iff`), so
all is said by the path that it leads to.  That an escape in a path leads to
another path is a matter of length: resolving makes a text shorter, and
reading a text as a path never makes it longer.

Main results: `fileUri_found_iff`, `file_found_iff`.
-/
import Mathlib.Data.List.TakeWhile
import ReleaseGate.Proofs.Gate.Artifacts
import ReleaseGate.Proofs.Location.Escapes
import ReleaseGate.Proofs.Location.Segment

namespace ReleaseGate

open FileTree ReleaseGate.Action

/-! ### The URI of a path -/

namespace Path

variable {p : Path} {s : List Char}

/-- The URI of a path. -/
def fileUri (p : Path) : String := String.ofList ("file://".toList ++ Location.escaped p.chars)

/-- The path with the escapes in its own text resolved. -/
def unescaped (p : Path) : Path := ofChars (Location.percentDecode p.chars)

theorem head?_chars (hp : p.isAbsolute) : ∃ rest, p.chars = '/' :: rest := by
  have hhead := head?_text hp
  rw [text, String.toList_ofList] at hhead
  exact List.head?_eq_some_iff.1 hhead

theorem isAbsolute_unescaped (hp : p.isAbsolute) : p.unescaped.isAbsolute := by
  obtain ⟨rest, hrest⟩ := head?_chars hp
  have hroot : rootOf (Location.percentDecode p.chars) ≠ .current := by
    rw [hrest, Location.percentDecode_cons (by decide) (by decide)]
    exact fun hcurrent => rootOf_eq_current.1 hcurrent rfl
  exact bne_iff_ne.2 hroot

/-- Escapes in the text of a path make it another path. -/
theorem unescaped_ofChars_eq_iff :
    (ofChars s).unescaped = ofChars s ↔ ¬ Location.HasEscape (ofChars s).chars := by
  constructor
  · intro hsame hescape
    have hshorter := Location.length_percentDecode_lt hescape
    have hne : Location.percentDecode (ofChars s).chars ≠ [] := by
      intro hnil
      have hpoint : (ofChars s).unescaped.chars = ['.'] := by
        rw [unescaped, hnil]
        rfl
      rw [hsame] at hpoint
      rw [hpoint] at hnil
      exact absurd hnil (by decide)
    have hlonger := length_chars_ofChars_le hne
    change (ofChars s).unescaped.chars.length ≤ _ at hlonger
    rw [hsame] at hlonger
    exact absurd hshorter (Nat.not_lt.2 hlonger)
  · intro hescape
    rw [unescaped, Location.percentDecode_eq_self_iff.2 hescape, ofChars_chars]

end Path

namespace Location

theorem significant_file (s : List Char) :
    significant ("file://".toList ++ s) = "file://".toList ++ s.filter fun c => !isIgnored c := by
  show ("file://".toList ++ s).filter _ = _
  rw [List.filter_append]
  rfl

theorem splitScheme_file (s : List Char) :
    splitScheme ("file://".toList ++ s) = ("file".toList, "//".toList ++ s) := rfl

/-- In front of a slash the authority is empty. -/
theorem splitAuthority_slash (s : List Char) :
    splitAuthority ("//".toList ++ '/' :: s) = ([], '/' :: s) := rfl

/-- The characters of a URI count, and do not end its path. -/
theorem counts_of_mem_escaped {s : List Char} {c : Char} (hc : c ∈ escaped s) :
    isIgnored c = false ∧ (c ≠ '?' && c ≠ '#') = true := by
  have hne : ∀ d, staysInUri d = false → d ≠ '%' → c ≠ d := by
    rintro d hstays hpercent rfl
    rcases mem_escaped hc with rfl | hc
    · exact hpercent rfl
    · rw [hstays] at hc
      cases hc
  have htab := hne '\t' (by decide) (by decide)
  have hreturn := hne '\r' (by decide) (by decide)
  have hline := hne '\n' (by decide) (by decide)
  have hquery := hne '?' (by decide) (by decide)
  have hfragment := hne '#' (by decide) (by decide)
  constructor
  · simp [isIgnored, htab, hreturn, hline]
  · simp [hquery, hfragment]

theorem toList_fileUri (p : Path) : p.fileUri.toList = "file://".toList ++ escaped p.chars :=
  String.toList_ofList

/-- A `file:` URI is taken apart to the text that was escaped. -/
theorem split_fileUri {p : Path} (hp : p.isAbsolute) :
    split p.fileUri.toList = .ok ⟨"file".toList, [], escaped p.chars⟩ := by
  obtain ⟨rest, hrest⟩ := Path.head?_chars hp
  have hslash : escaped p.chars = '/' :: escaped rest := by
    rw [hrest]
    rfl
  have hfilter : (escaped p.chars).filter (fun c => !isIgnored c) = escaped p.chars := by
    rw [List.filter_eq_self]
    intro c hc
    rw [(counts_of_mem_escaped hc).1]
    rfl
  have hpath : (escaped p.chars).takeWhile (fun c => c ≠ '?' && c ≠ '#') = escaped p.chars := by
    rw [List.takeWhile_eq_self_iff]
    intro c hc
    exact (counts_of_mem_escaped hc).2
  have hauthority : splitAuthority ("//".toList ++ escaped p.chars) = ([], escaped p.chars) := by
    rw [hslash]
    exact splitAuthority_slash _
  have hscheme : splitScheme (significant p.fileUri.toList) =
      ("file".toList, "//".toList ++ escaped p.chars) := by
    rw [toList_fileUri, significant_file, hfilter, splitScheme_file]
  have hparameters : schemesWithParameters.contains "file".toList = false := by decide
  rw [split_eq hscheme hauthority, hparameters, if_neg Bool.false_ne_true, hpath]
  rfl

/-- The path of the URI of a path has the escapes in it resolved, as those
of the URI are. -/
theorem filePath_escaped (p : Path) (authority : List Char) :
    filePath ⟨"file".toList, authority, escaped p.chars⟩ = p.unescaped := by
  show Path.ofChars (percentDecode (percentDecode (escaped p.chars))) = _
  rw [percentDecode_escaped]
  rfl

end Location

namespace Artifacts

variable {host : Host} {settings : Settings} {fetcher : Fetcher} {location : String}
variable {mayBeMissing : Bool} {m m' : Machine}

/-! ### Looking a URI up -/

/-- **A `file:` URI** leads to the path that its text gives when the escapes
are resolved twice.  That path is found if it is a regular file, and nothing
is changed. -/
theorem file_found_iff {l : Location} {r : Except Failure (Option Path)}
    (hl : Location.split location.toList = .ok l) (hscheme : l.scheme = "file".toList)
    (h : (lookFor host settings fetcher location mayBeMissing).on m = (r, m')) :
    m' = m ∧ ∀ found, r = .ok (some found) ↔
      found = l.filePath.seenFrom host.workingDir ∧
        m.files.isFile host.here found.text = .ok true := by
  have hlocal : ¬ l.isLocal = true := by
    rw [Location.isLocal, hscheme]
    decide
  refine found_iff_of_localPath hl ?_ h
  rw [localPath?, if_neg hlocal, if_pos hscheme]

/-- **The URI of a regular file** leads to the path with the escapes in its
own text resolved.  So the file is found if and only if no escape is in its
path; otherwise what is found, if anything, is a file of another path. -/
theorem fileUri_found_iff (text : String) {p : Path} {r : Except Failure (Option Path)}
    (hp : p = .ofString text) (habs : p.isAbsolute)
    (hfile : m.files.isFile host.here p.text = .ok true)
    (h : (lookFor host settings fetcher p.fileUri mayBeMissing).on m = (r, m')) :
    m' = m ∧
    (∀ found, r = .ok (some found) ↔
      found = p.unescaped ∧ m.files.isFile host.here found.text = .ok true) ∧
    (r = .ok (some p) ↔ ¬ Location.HasEscape p.chars) := by
  obtain ⟨hm, hfound⟩ := file_found_iff (Location.split_fileUri habs) rfl h
  rw [Location.filePath_escaped, Path.seenFrom_of_isAbsolute (Path.isAbsolute_unescaped habs)]
    at hfound
  refine ⟨hm, hfound, ?_⟩
  have hkept : p.unescaped = p ↔ ¬ Location.HasEscape p.chars := by
    rw [hp]
    exact Path.unescaped_ofChars_eq_iff
  rw [hfound p, ← hkept]
  constructor
  · rintro ⟨hsame, -⟩
    exact hsame.symm
  · intro hsame
    exact ⟨hsame.symm, hfile⟩

/-- A machine with empty files of these names. -/
def holding (names : List String) : Machine where
  files := { nodes := names.map fun name => ([name], .file .empty) }

/-- A file with a blank and an umlaut in its name is found under its URI. -/
theorem fileUri_found_blank :
    ∃ m', (lookFor .bare {} .standard (Path.ofString "/ä b.jar").fileUri false).on
        (holding ["ä b.jar"]) = (.ok (some (.ofString "/ä b.jar")), m') := by
  rcases hrun : (lookFor .bare {} .standard (Path.ofString "/ä b.jar").fileUri false).on
    (holding ["ä b.jar"]) with ⟨r, m'⟩
  have hplain : ¬ Location.HasEscape (Path.ofString "/ä b.jar").chars :=
    Location.percentDecode_eq_self_iff.1 (by decide +kernel)
  obtain ⟨-, -, hfound⟩ := fileUri_found_iff "/ä b.jar" rfl (by decide +kernel)
    (by decide +kernel) hrun
  exact ⟨m', by rw [hfound.2 hplain]⟩

/-- With an escape in its name another file is found. -/
theorem fileUri_other_file :
    (holding ["a%41.jar", "aA.jar"]).files.isFile Host.bare.here "/a%41.jar" = .ok true ∧
    (Path.ofString "/a%41.jar").fileUri = "file:///a%2541.jar" ∧
    ((resolve .bare {} .standard "file:///a%2541.jar").on
      (holding ["a%41.jar", "aA.jar"])).1.toOption = some (.ofString "/aA.jar") := by
  decide +kernel

end Artifacts

end ReleaseGate
