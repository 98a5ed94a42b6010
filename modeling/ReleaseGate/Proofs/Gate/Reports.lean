/-
ReleaseGate/Proofs/Gate/Reports.lean

What writing reports does to the files.

`Reports host reports t t'` says that `t'` is `t` with new directories on the
way to the reports, and with the reports.  It holds whatever becomes of the
writing, and it keeps all ways, so what it says of one report after the
other can be put together.

Main results: `traceless_writeReports`, `reports_writeReports`,
`reads_of_writeReports`.
-/
import ReleaseGate.Gate.Run
import ReleaseGate.Proofs.Runs

namespace ReleaseGate.Gate

open ReleaseGate.Action
open FileTree hiding resolve

variable {host : Host} {report textReport htmlReport : Path} {reports more : List Path}
variable {t t' t'' : FileTree} {m m' : Machine} {r : Except Failure Unit}

/-- The tree `t'` is `t` with some reports, or with what was made of them
before writing failed. -/
structure Reports (host : Host) (reports : List Path) (t t' : FileTree) : Prop where
  keeps : KeepsWays t t'
  grounded : Grounded t'
  off : ∀ q, t'.get? q ≠ t.get? q → ∃ report ∈ reports,
    NewDir t t' host.here report.parent q ∨ t'.locate host.here report.text true = .ok q

theorem Reports.refl (host : Host) (reports : List Path) (ht : Grounded t) :
    Reports host reports t t :=
  ⟨.refl t, ht, fun _ hq => absurd rfl hq⟩

theorem Reports.trans (h : Reports host reports t t') (h' : Reports host more t' t'') :
    Reports host (reports ++ more) t t'' := by
  refine ⟨h.keeps.trans h'.keeps, h'.grounded, fun q hq => ?_⟩
  by_cases h₁ : t'.get? q = t.get? q
  · have hq' : t''.get? q ≠ t'.get? q := by rwa [h₁]
    obtain ⟨report, hmem, hnew | hl⟩ := h'.off q hq'
    · exact ⟨report, List.mem_append_right _ hmem, .inl ⟨h₁ ▸ hnew.1, hnew.2⟩⟩
    · exact ⟨report, List.mem_append_right _ hmem, .inr hl⟩
  · obtain ⟨report, hmem, hnew | hl⟩ := h.off q h₁
    · exact ⟨report, List.mem_append_left _ hmem, .inl (hnew.later h'.keeps)⟩
    · exact ⟨report, List.mem_append_left _ hmem, .inr (locate_mono h'.keeps hl)⟩

theorem Reports.mono (h : Reports host reports t t') (hr : reports ⊆ more) :
    Reports host more t t' := by
  refine ⟨h.keeps, h.grounded, fun q hq => ?_⟩
  obtain ⟨report, hmem, hcase⟩ := h.off q hq
  exact ⟨report, hr hmem, hcase⟩

theorem reports_of_addsDirs (ht : Grounded t) (hd : t.get? host.here = some .dir)
    (h : AddsDirs t t' host.here report.parent) : Reports host [report] t t' :=
  ⟨h.keeps, h.grounded ht hd, fun q hq => ⟨report, List.mem_singleton_self _, .inl (h.new q hq)⟩⟩

/-- A file that is written replaces nothing but a file. -/
theorem reports_write {content : ByteArray} (ht : Grounded t) (hd : t.get? host.here = some .dir)
    (h : t.write host.here report.text content = .ok t') : Reports host [report] t t' := by
  obtain ⟨p, hp, hdir, hedit⟩ := write_eq_ok h
  -- at the end of a way there is no link, so writing makes a file or replaces one
  have hkeeps : KeepsWays t t' := by
    rcases hg : t.get? p with - | (old | - | target)
    · exact hedit.keepsWays hg (by simp)
    · exact hedit.keepsWays_of_file hg (by simp)
    · exact absurd hg hdir
    · exact absurd hg ((walk_of_locate hp).end_not_link ht (get?_startOf hd) target)
  refine ⟨hkeeps, ht.edit_of_locate hd hp hdir hedit, fun q hq => ?_⟩
  obtain rfl : q = p := by
    by_contra hqp
    exact hq (hedit.off q hqp)
  exact ⟨report, List.mem_singleton_self _, .inr (locate_mono hkeeps hp)⟩

theorem traceless_writeReports (host : Host) (comparison : Comparison)
    (textReport htmlReport : Path) :
    Traceless (writeReports host comparison textReport htmlReport) := by
  have hwrite : ∀ path text, Traceless (writeReport host path text) := fun path text =>
    (traceless_makeDirs host path.parent).bind fun _ => traceless_changeFiles _
  exact (hwrite _ _).bind fun _ => hwrite _ _

/-- Writing a report leaves directories on its way and the report. -/
theorem reports_writeReport {text : String} (ht : Grounded m.files)
    (hd : m.files.get? host.here = some .dir)
    (h : (writeReport host report text).on m = (r, m')) :
    Reports host [report] m.files m'.files := by
  have hdirs := addsDirs_makeDirs m.files host.here report.parent
  have hmade := reports_of_addsDirs ht hd hdirs
  have hon := on_makeDirs host report.parent m
  rw [writeReport] at h
  rcases on_bind_cases h with ⟨e, hfail, -⟩ | ⟨u, m₁, hdone, hstore⟩
  · obtain ⟨-, rfl⟩ := Prod.mk.inj (hon.symm.trans hfail)
    exact hmade
  · obtain ⟨-, rfl⟩ := Prod.mk.inj (hon.symm.trans hdone)
    rcases r with e | u
    · obtain ⟨-, -, -, rfl⟩ := changeFiles_eq_error.1 hstore
      exact hmade
    · obtain ⟨t', hwrite, rfl⟩ := changeFiles_eq_ok.1 hstore
      have hput := reports_write hmade.grounded (hdirs.keeps.dir hd) hwrite
      exact (hmade.trans hput).mono (by simp)

/-- **Writing both reports** leaves no other trace, wherever it stops. -/
theorem reports_writeReports {comparison : Comparison} (ht : Grounded m.files)
    (hd : m.files.get? host.here = some .dir)
    (h : (writeReports host comparison textReport htmlReport).on m = (r, m')) :
    SameTrace m m' ∧ Reports host [textReport, htmlReport] m.files m'.files := by
  refine ⟨(traceless_writeReports host _ _ _).sameTrace h, ?_⟩
  rw [writeReports] at h
  rcases on_bind_cases h with ⟨e, hfirst, rfl⟩ | ⟨u, m₁, hfirst, hsecond⟩
  · exact (reports_writeReport ht hd hfirst).mono (by simp)
  · have hreports := reports_writeReport ht hd hfirst
    exact hreports.trans (reports_writeReport hreports.grounded (hreports.keeps.dir hd) hsecond)

/-! ### Reading the reports -/

/-- A report that was written can be read. -/
theorem read_of_writeReport {text : String} {u : Unit} (ht : Grounded m.files)
    (hd : m.files.get? host.here = some .dir)
    (h : (writeReport host report text).on m = (.ok u, m')) :
    m'.files.read host.here report.text = .ok text.toUTF8 := by
  have hdirs := addsDirs_makeDirs m.files host.here report.parent
  rw [writeReport] at h
  obtain ⟨u, m₁, hdone, hstore⟩ := on_bind_eq_ok.1 h
  obtain ⟨-, rfl⟩ := Prod.mk.inj ((on_makeDirs host report.parent m).symm.trans hdone)
  obtain ⟨t', hwrite, rfl⟩ := changeFiles_eq_ok.1 hstore
  have hput := reports_write (hdirs.grounded ht hd) (hdirs.keeps.dir hd) hwrite
  obtain ⟨p, hp, -, hedit⟩ := write_eq_ok hwrite
  exact read_eq_ok.2 ⟨p, locate_mono hput.keeps hp, hedit.new⟩

/-- Two paths that lead to one place. -/
def LeadTogether (host : Host) (t : FileTree) (a b : Path) : Prop :=
  ∃ p, t.locate host.here a.text true = .ok p ∧ t.locate host.here b.text true = .ok p

/-- **Both reports** can be read once they are written, unless the second
one has taken the place of the first. -/
theorem reads_of_writeReports {comparison : Comparison} {u : Unit} (ht : Grounded m.files)
    (hd : m.files.get? host.here = some .dir)
    (h : (writeReports host comparison textReport htmlReport).on m = (.ok u, m')) :
    m'.files.read host.here htmlReport.text = .ok (Page.render comparison host.now).toUTF8 ∧
      (m'.files.read host.here textReport.text = .ok (TextReport.render comparison).toUTF8 ∨
        LeadTogether host m'.files textReport htmlReport) := by
  rw [writeReports] at h
  obtain ⟨u, m₁, hfirst, hsecond⟩ := on_bind_eq_ok.1 h
  have hreports := reports_writeReport ht hd hfirst
  have hd₁ := hreports.keeps.dir hd
  refine ⟨read_of_writeReport hreports.grounded hd₁ hsecond, ?_⟩
  obtain ⟨p, hp, htext⟩ := read_eq_ok.1 (read_of_writeReport ht hd hfirst)
  have hmore := reports_writeReport hreports.grounded hd₁ hsecond
  have hp' := locate_mono hmore.keeps hp
  by_cases hsame : m'.files.get? p = m₁.files.get? p
  · exact .inl (read_eq_ok.2 ⟨p, hp', hsame.trans htext⟩)
  · -- a file is no new directory, so the second report was written to it
    obtain ⟨report, hmem, hnew | hl⟩ := hmore.off p hsame
    · rw [hnew.1] at htext
      cases htext
    · obtain rfl := List.mem_singleton.1 hmem
      exact .inr ⟨p, hp', hl⟩

end ReleaseGate.Gate
