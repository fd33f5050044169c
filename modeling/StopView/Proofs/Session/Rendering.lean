import StopView.Proofs.Batch.Share
import StopView.Proofs.Request
import StopView.Session

/-!
# How a view is rendered

Waiting events are recorded first, which touches nothing but the record and the
channel.  Then every section is rendered once, those with a destination of their own
before the others.  This order is not visible in the batches: they are those of the
request's own order.
-/

namespace StopView

namespace Session

/-! ## The order of rendering -/

theorem perm_renderingOrder (settings : Settings) (parts : List Section) :
    (renderingOrder settings parts).Perm parts :=
  List.perm_append_comm.trans (List.filter_append_perm (isMain settings.sectionOutputs) parts)

theorem filter_isMain_renderingOrder (settings : Settings) (parts : List Section) :
    (renderingOrder settings parts).filter (isMain settings.sectionOutputs) =
      parts.filter (isMain settings.sectionOutputs) := by
  simp [renderingOrder, List.filter_append, List.filter_filter]

/-- Sections with a destination of their own stay in the order of the request. -/
theorem filter_renderingOrder_of_split {settings : Settings} {accepts : Section → Bool}
    (split : ∀ part, accepts part = true → isMain settings.sectionOutputs part = false)
    (parts : List Section) :
    (renderingOrder settings parts).filter accepts = parts.filter accepts := by
  rw [renderingOrder, List.filter_append, List.filter_filter, List.filter_filter]
  have all : parts.filter (fun part => accepts part && !isMain settings.sectionOutputs part) =
      parts.filter accepts := by
    apply List.filter_congr
    intro part _
    cases accepted : accepts part with
    | false => rfl
    | true => simp [split part accepted]
  have none : parts.filter (fun part => accepts part && isMain settings.sectionOutputs part) =
      [] := by
    apply List.filter_eq_nil_iff.mpr
    intro part _ both
    obtain ⟨accepted, main⟩ := Bool.and_eq_true_iff.mp both
    rw [split part accepted] at main
    contradiction
  rw [all, none, List.append_nil]

/-- The sections' own destinations first appear in the order of the request. -/
theorem destinations_renderingOrder (settings : Settings) (parts : List Section) :
    settings.sectionOutputs.destinations (renderingOrder settings parts) =
      settings.sectionOutputs.destinations parts := by
  have split : (parts.filter fun part => !isMain settings.sectionOutputs part).filterMap
      settings.sectionOutputs.own? = parts.filterMap settings.sectionOutputs.own? := by
    rw [List.filterMap_filter]
    apply List.filterMap_congr
    intro part _
    cases main : isMain settings.sectionOutputs part with
    | false => rfl
    | true => simp [SectionOutputs.isMain_eq_true_iff.mp main]
  have main : (parts.filter (isMain settings.sectionOutputs)).filterMap
      settings.sectionOutputs.own? = [] := by
    apply List.filterMap_eq_nil_iff.mpr
    intro part partMem
    exact SectionOutputs.isMain_eq_true_iff.mp (List.mem_filter.mp partMem).2
  rw [SectionOutputs.destinations, SectionOutputs.destinations, renderingOrder,
    List.filterMap_append, split, main, List.append_nil]

/-- The batches do not depend on the order of rendering. -/
theorem viewBatches_renderingOrder (settings : Settings) (palette : Palette)
    (terminal : Option Path) (parts : List Section) (block : Section → List String)
    (lifecycle : List String) :
    viewBatches settings palette terminal (renderingOrder settings parts) block lifecycle =
      viewBatches settings palette terminal parts block lifecycle := by
  have own : settings.sectionOutputs.ownShares terminal (renderingOrder settings parts) =
      settings.sectionOutputs.ownShares terminal parts := by
    rw [SectionOutputs.ownShares, SectionOutputs.ownShares, destinations_renderingOrder]
    apply List.map_congr_left
    intro destination _
    rw [SectionOutputs.shareOf, SectionOutputs.shareOf, filter_renderingOrder_of_split]
    exact fun part goes => SectionOutputs.isMain_eq_false_of_goesTo goes
  have main : settings.sectionOutputs.mainParts terminal (renderingOrder settings parts) =
      settings.sectionOutputs.mainParts terminal parts := by
    rw [SectionOutputs.mainParts, SectionOutputs.mainParts, filter_isMain_renderingOrder,
      filter_renderingOrder_of_split]
    intro part goes
    obtain ⟨device, goesDevice⟩ := SectionOutputs.goesToTerminal_eq_true_iff.mp goes
    exact SectionOutputs.isMain_eq_false_of_goesTo goesDevice.2
  have legend : legendLines palette settings.sectionOutputs (renderingOrder settings parts) =
      legendLines palette settings.sectionOutputs parts := by
    have listed : ∀ part, part ∈ renderingOrder settings parts ↔ part ∈ parts := fun _ =>
      (perm_renderingOrder settings parts).mem_iff
    by_cases any : ∃ part ∈ parts, settings.sectionOutputs.get part = .noSplit
    · rw [legendLines, legendLines, if_pos any, if_pos (by simpa only [listed] using any)]
    · rw [legendLines, legendLines, if_neg any, if_neg (by simpa only [listed] using any)]
  rw [viewBatches, viewBatches, mainLines, mainLines, own, main, legend]

/-! ## Rendered sections -/

@[simp]
theorem settings_pollEvents (session : Session) (inspector : Inspector) :
    (session.pollEvents inspector).value.session.settings = session.settings :=
  rfl

/-- The lines that a section was rendered to. -/
def linesOf (rendered : List SectionLines) (part : Section) : List String :=
  ((rendered.find? fun item => item.part = part).map SectionLines.lines).getD []

theorem map_linesOf {rendered : List SectionLines}
    (once : (rendered.map SectionLines.part).Nodup) :
    (rendered.map SectionLines.part).map (fun part => ⟨part, linesOf rendered part⟩) =
      rendered := by
  induction rendered with
  | nil => rfl
  | cons item rest ih =>
      obtain ⟨fresh, restOnce⟩ := List.nodup_cons.mp once
      rw [List.map_cons, List.map_cons]
      congr 1
      · simp [linesOf]
      · apply Eq.trans _ (ih restOnce)
        apply List.map_congr_left
        intro part partMem
        have other : item.part ≠ part := by
          rintro rfl
          exact fresh partMem
        simp [linesOf, other]

section Rendered

variable (session : Session) (inspector : Inspector) (files : FileSystem)
  (terminal : Option Path) (tokens : List String)

/-- The sections of a view in the order of rendering, each with the lines that rendering
it gave. -/
def rendered : List SectionLines :=
  ((session.pollEvents inspector).value.session.renderSections inspector files
    (requestedSections session.settings tokens).value).value.1

theorem map_part_rendered :
    (session.rendered inspector files tokens).map SectionLines.part =
      renderingOrder session.settings (requestedSections session.settings tokens).value := by
  unfold rendered renderSections
  simp only [Noted.value_bind, Noted.value_pure, List.map_zipWith, settings_pollEvents]
  rw [← List.map_uncurry_zip_eq_zipWith]
  apply List.map_fst_zip
  simp

theorem rendered_eq_map :
    session.rendered inspector files tokens =
      (renderingOrder session.settings (requestedSections session.settings tokens).value).map
        fun part => ⟨part, linesOf (session.rendered inspector files tokens) part⟩ := by
  have once : ((session.rendered inspector files tokens).map SectionLines.part).Nodup := by
    rw [map_part_rendered]
    exact (perm_renderingOrder _ _).nodup_iff.mpr (nodup_requestedSections _ _)
  rw [← session.map_part_rendered inspector files tokens]
  exact (map_linesOf once).symm

/-- The lines of a rendered section are those of its block, rendered after the blocks
before it. -/
theorem map_lines_rendered :
    (session.rendered inspector files tokens).map SectionLines.lines =
      ((session.scene inspector files).blocks
        (renderingOrder session.settings (requestedSections session.settings tokens).value)
        session.memory).value.1 := by
  unfold rendered renderSections
  simp only [Noted.value_bind, Noted.value_pure, List.map_zipWith, settings_pollEvents]
  rw [← List.map_uncurry_zip_eq_zipWith]
  apply List.map_snd_zip
  simp

end Rendered

end Session

end StopView
