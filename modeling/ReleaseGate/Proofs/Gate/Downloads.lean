/-
ReleaseGate/Proofs/Gate/Downloads.lean

Many searches, one after the other.

`searches host plan m` makes the searches of a plan, each on the machine that
the one before it left, and keeps a record of each: the machine before it,
its answer, and the machine after it.  They may fail, and each may have
settings of its own.  Which number a temporary name starts from is part of
the plan, so that names come again as they like; what keeps downloads apart
is that a file is only ever created where nothing is.

Design.  One search keeps whatever could be read (`Searched.read`), and so
does a run of them (`read_of_mem_searches`).  A download is new when it is
made (`newAt_of_stage`), so a path that can be read already is not handed out
again.

Main result: `downloads_stay`.
-/
import ReleaseGate.Proofs.Gate.Locations

namespace ReleaseGate.Artifacts

open FileTree ReleaseGate.Action

/-- A search for a file. -/
structure Search where
  settings : Settings
  fetcher : Fetcher
  location : String
  mayBeMissing : Bool
  /-- The number that the next temporary name is made of. -/
  nextName : Nat

/-- A search that was made. -/
structure Searched where
  search : Search
  before : Machine
  answer : Except Failure (Option Path)
  after : Machine

/-- Makes a search. -/
def Search.make (host : Host) (s : Search) (m : Machine) : Searched :=
  let (answer, after) := (lookFor host s.settings s.fetcher s.location s.mayBeMissing).on
    { m with nextName := s.nextName }
  ⟨s, m, answer, after⟩

/-- Makes searches one after the other. -/
def searches (host : Host) : List Search → Machine → List Searched
  | [], _ => []
  | s :: plan, m => s.make host m :: searches host plan (s.make host m).after

variable {host : Host} {plan : List Search} {m : Machine} {d : Searched} {path : Path}
variable {content : ByteArray}

namespace Searched

/-- The search had to go over the net, and found the file at `path`. -/
structure Downloads (d : Searched) (path : Path) : Prop where
  remote : Location.hasToBeFetched d.search.location.toList = .ok true
  found : d.answer = .ok (some path)

/-- The search was given `content` by a server. -/
def Receives (host : Host) (d : Searched) (content : ByteArray) : Prop :=
  ∃ client, d.search.fetcher.client d.search.settings = .ok client ∧
    Net.Sends host.library host.server client d.search.location d.before.requests content

end Searched

/-! ### One search -/

/-- What a search leaves of what could be read before it. -/
theorem read_make {s : Search} {text : String}
    (hr : m.files.read host.here text = .ok content) :
    (s.make host m).after.files.read host.here text = .ok content := by
  rcases hlook : (lookFor host s.settings s.fetcher s.location s.mayBeMissing).on
    { m with nextName := s.nextName } with ⟨answer, after⟩
  obtain ⟨found, hresolve, -⟩ := lookFor_cases hlook
  obtain ⟨staged, hstages⟩ := (resolveRun_resolve hresolve).stages
  rw [Search.make, hlook]
  exact hstages.read hr

/-- **A download** is new when it is made, and holds what a server sent. -/
theorem newAt_make {s : Search} (h : (s.make host m).Downloads path) :
    ∃ content f, (s.make host m).Receives host content ∧
      NewAt host m.files (s.make host m).after.files path f ∧
      (s.make host m).after.files.read host.here path.text = .ok content := by
  obtain ⟨hremote, hfound⟩ := h
  change Location.hasToBeFetched s.location.toList = _ at hremote
  rw [Location.hasToBeFetched_eq] at hremote
  rcases hl : Location.split s.location.toList with e | l
  · rw [hl] at hremote
    cases hremote
  rw [hl] at hremote
  have hlook : (lookFor host s.settings s.fetcher s.location s.mayBeMissing).on
      { m with nextName := s.nextName } = (.ok (some path), (s.make host m).after) :=
    Prod.ext hfound rfl
  rw [lookFor_eq_some, resolve_of_remote hl (Except.ok.inj hremote)] at hlook
  obtain ⟨client, content, f, hclient, hsends, hnew, hfile⟩ := newAt_of_stage hlook
  exact ⟨content, f, ⟨client, hclient, hsends⟩, hnew, read_eq_ok.2 ⟨f, hnew.locate, hfile⟩⟩

/-! ### Runs of searches -/

/-- What can be read before a run of searches can be read all the way. -/
theorem read_of_mem_searches {text : String} (hr : m.files.read host.here text = .ok content)
    (hd : d ∈ searches host plan m) :
    d.before.files.read host.here text = .ok content ∧
      d.after.files.read host.here text = .ok content := by
  -- each search takes over what the one before it left
  induction plan generalizing m with
  | nil => cases hd
  | cons s plan ih =>
    rcases List.mem_cons.1 hd with rfl | hd
    · exact ⟨hr, read_make hr⟩
    · exact ih (read_make hr) hd

/-- What can be read after a search can be read before and after each later
one. -/
theorem pairwise_searches (host : Host) (plan : List Search) (m : Machine) :
    (searches host plan m).Pairwise fun d later => ∀ text content,
      d.after.files.read host.here text = .ok content →
      later.before.files.read host.here text = .ok content ∧
        later.after.files.read host.here text = .ok content := by
  induction plan generalizing m with
  | nil => exact List.Pairwise.nil
  | cons s plan ih =>
    refine List.pairwise_cons.2 ⟨?_, ih _⟩
    intro later hlater text content hr
    exact read_of_mem_searches hr hlater

/-- A search on record was made on the machine before it. -/
theorem eq_make_of_mem (hd : d ∈ searches host plan m) : d = d.search.make host d.before := by
  induction plan generalizing m with
  | nil => cases hd
  | cons s plan ih =>
    rcases List.mem_cons.1 hd with rfl | hd
    · rfl
    · exact ih hd

/-- **Downloads stay apart**: in a run of searches each download has a path
that led to nothing before, and keeps what a server sent for it, after that
search and after each later one.  So no two of them have the same path. -/
theorem downloads_stay (host : Host) (plan : List Search) (m : Machine) :
    (∀ i (hi : i < (searches host plan m).length) path,
      (searches host plan m)[i].Downloads path →
      ∃ content f, (searches host plan m)[i].Receives host content ∧
        NewAt host (searches host plan m)[i].before.files
          (searches host plan m)[i].after.files path f ∧
        ∀ j (hj : j < (searches host plan m).length), i ≤ j →
          (searches host plan m)[j].after.files.read host.here path.text = .ok content) ∧
    ∀ i j (hi : i < (searches host plan m).length) (hj : j < (searches host plan m).length) path,
      (searches host plan m)[i].Downloads path → (searches host plan m)[j].Downloads path →
      i = j := by
  have hnew : ∀ d ∈ searches host plan m, ∀ path, d.Downloads path →
      ∃ content f, d.Receives host content ∧ NewAt host d.before.files d.after.files path f ∧
        d.after.files.read host.here path.text = .ok content := by
    intro d hd path hdown
    have hmake := eq_make_of_mem hd
    rw [hmake] at hdown
    obtain ⟨content, f, h⟩ := newAt_make hdown
    rw [← hmake] at h
    exact ⟨content, f, h⟩
  have hkept := List.pairwise_iff_getElem.1 (pairwise_searches host plan m)
  -- the later one of two downloads finds the path of the earlier one in use
  have hlater : ∀ i j (hi : i < (searches host plan m).length)
      (hj : j < (searches host plan m).length), i < j → ∀ path,
      (searches host plan m)[i].Downloads path → ¬ (searches host plan m)[j].Downloads path := by
    intro i j hi hj hij path hdown hagain
    obtain ⟨content, -, -, -, hread⟩ := hnew _ (List.getElem_mem hi) path hdown
    obtain ⟨-, f, -, hfree, -⟩ := hnew _ (List.getElem_mem hj) path hagain
    obtain ⟨hbefore, -⟩ := hkept i j hi hj hij _ _ hread
    exact hfree.absent _ (lookup_eq_ok.2 (read_eq_ok.1 hbefore))
  constructor
  · intro i hi path hdown
    obtain ⟨content, f, hreceives, hfree, hread⟩ := hnew _ (List.getElem_mem hi) path hdown
    refine ⟨content, f, hreceives, hfree, fun j hj hij => ?_⟩
    rcases Nat.eq_or_lt_of_le hij with rfl | hij
    · exact hread
    · exact (hkept i j hi hj hij _ _ hread).2
  · intro i j hi hj path hdown hagain
    rcases Nat.lt_trichotomy i j with hij | hij | hij
    · exact absurd hagain (hlater i j hi hj hij path hdown)
    · exact hij
    · exact absurd hdown (hlater j i hj hi hij path hagain)

/-- A search for the release that a server has, with the first number for its
temporary name. -/
def again (location : String) : Search := ⟨fetchingAs "bumpgate", .standard, location, false, 1⟩

/-- Two downloads of one release, with another search between them that
fails.  The second one draws the number of the first one again. -/
def twice : List Search :=
  [again "http://h/old.jar", again "ftp://h/old.jar", again "http://h/old.jar"]

/-- The second download has a path of its own, and the first one is still
there in the end. -/
theorem downloads_stay_twice :
    ∃ a b c first second, searches having twice {} = [a, b, c] ∧ a.Downloads first ∧
      c.Downloads second ∧ first ≠ second ∧
      c.after.files.read having.here first.text = .ok ⟨#[79, 75]⟩ := by
  have hremote : Location.hasToBeFetched "http://h/old.jar".toList = .ok true :=
    eq_ok_of_toOption (by decide +kernel)
  obtain ⟨a, b, c, hall⟩ : ∃ a b c, searches having twice {} = [a, b, c] := ⟨_, _, _, rfl⟩
  obtain ⟨ha, hrest⟩ := List.cons.inj hall
  obtain ⟨-, hc⟩ := List.cons.inj hrest
  have hfirst : a.Downloads (.ofString "/s/bumpgate-00000001.jar") := by
    rw [← ha]
    exact ⟨hremote, eq_ok_of_toOption (by decide +kernel)⟩
  have hsecond : c.Downloads (.ofString "/s/bumpgate-00000002.jar") := by
    rw [← (List.cons.inj hc).1]
    exact ⟨hremote, eq_ok_of_toOption (by decide +kernel)⟩
  obtain ⟨hstay, hapart⟩ := downloads_stay having twice {}
  simp only [hall] at hstay hapart
  have hzero : 0 < [a, b, c].length := Nat.zero_lt_succ _
  have htwo : 2 < [a, b, c].length := Nat.lt_succ_self _
  obtain ⟨content, f, ⟨client, -, hsends⟩, -, hread⟩ := hstay 0 hzero _ hfirst
  refine ⟨a, b, c, _, _, hall, hfirst, hsecond, ?_, ?_⟩
  · intro hsame
    rw [← hsame] at hsecond
    exact absurd (hapart 0 2 hzero htwo _ hfirst hsecond) (by decide)
  · obtain ⟨url, asked, r, last, -, hchain, -, hholds⟩ := hsends.chain
    obtain ⟨earlier, -, hreply⟩ := hchain.last_request
    obtain rfl := Net.Reply.response.inj hreply
    rw [hholds.eq_body rfl] at hread
    exact hread 2 htwo (by decide)

end ReleaseGate.Artifacts
