import KernelLaunch.Adapter.Resolution
import KernelLaunch.Proofs.Preparation
import KernelLaunch.Proofs.SettingValues

/-!
# Forced launches

The forced parts of a launch are read from variables.  No dimensions with a zero axis are
read, so what is read can be launched as soon as it is sufficient, whichever kernel is run.

Forced parts take precedence as a whole.  If they are sufficient, nothing but them decides the
launch; if they are not, none of them has a part in it.

**Results.**
* `partsPositive_of_ofVariables`: no part that is read has a zero axis.
* `launchesIfSufficient_ofVariables`: what is read can be launched exactly if it is sufficient.
* `deduceLaunch_alike`: the built-in kernels deduce a launch without the forced parts.
* `Adapter.neverMixed_resolve`: the launch is all forced or all deduced.
-/

namespace KernelLaunch

section Reading

variable {vars : Variables} {c : LaunchComponents}

theorem isPositive_of_setting
    {name : String} {part : Option Dimensions}
    (h : setting vars name readDimensionsSetting = .ok part) :
    ∀ d, part = some d → d.IsPositive := by
  rintro d rfl
  obtain ⟨value, _, hread⟩ := setting_eq_some_iff.1 h
  obtain ⟨_, _, _, hpositive⟩ := readDimensionsSetting_eq_ok_iff.1 hread
  exact hpositive

/-- No part that is read has a zero axis. -/
theorem partsPositive_of_ofVariables (h : LaunchComponents.ofVariables vars = .ok c) :
    c.PartsPositive := by
  simp only [LaunchComponents.ofVariables, bind_eq_ok_iff] at h
  obtain ⟨grid, hgrid, overall, hoverall, block, hblock, shared, _, hc⟩ := h
  cases hc
  exact
    { grid := isPositive_of_setting hgrid
      overall := isPositive_of_setting hoverall
      block := isPositive_of_setting hblock }

/-- A description without zero axes that is launched as soon as it is sufficient. -/
structure LaunchesIfSufficient (c : LaunchComponents) : Prop where
  positive : c.PartsPositive
  realizes : (∃ l, c.realize = .ok l) ↔ c.isSufficient = true
  /-- Forced, it is the launch of every kernel in every context. -/
  launches : c.isSufficient = true → ∃ l, c.realize = .ok l ∧
    ∀ (a : Adapter) (context : Context), context.forced = c →
      a.makeRealizedLaunch context = .ok l
  refused : c.isSufficient = false → c.realize = .error (.insufficient c)

/-- What is read from variables can be launched exactly if it is sufficient. -/
theorem launchesIfSufficient_ofVariables (h : LaunchComponents.ofVariables vars = .ok c) :
    LaunchesIfSufficient c := by
  have hpositive := partsPositive_of_ofVariables h
  refine ⟨hpositive, hpositive.exists_realize_iff, ?_, hpositive.realize_of_insufficient⟩
  intro hsufficient
  obtain ⟨l, hl⟩ := hpositive.exists_realize_iff.2 hsufficient
  refine ⟨l, hl, ?_⟩
  rintro a context rfl
  rw [Adapter.makeRealizedLaunch_of_sufficient hsufficient, hl]
  rfl

/-- Threads and a block, with blanks, a sign and leading zeros, and no grid. -/
def threadsAndBlock : Variables := fun name =>
  findEntry name [("GKR_OVERALL_GRID", " 1000 ,+7"), ("GKR_BLOCK", "64,02 "),
    ("GKR_DYNAMIC_SHMEM", "\t512")]

theorem launchesIfSufficient_threadsAndBlock :
    LaunchComponents.ofVariables threadsAndBlock =
        .ok { overall := some ⟨1000, 7, 1⟩, block := some ⟨64, 2, 1⟩, sharedMemory := some 512 } ∧
      LaunchesIfSufficient
        { overall := some ⟨1000, 7, 1⟩, block := some ⟨64, 2, 1⟩, sharedMemory := some 512 } := by
  have hread : LaunchComponents.ofVariables threadsAndBlock =
      .ok { overall := some ⟨1000, 7, 1⟩, block := some ⟨64, 2, 1⟩,
            sharedMemory := some 512 } := by rfl
  exact ⟨hread, launchesIfSufficient_ofVariables hread⟩

end Reading

section Precedence

variable {a : Adapter} {c d : Context}

/-- The built-in kernels deduce a launch from the host sizes, the scalars and the definitions
alone. -/
theorem deduceLaunch_alike :
    ∀ a ∈ builtinAdapters, ∀ c d : Context, c.Alike d → a.deduceLaunch c = a.deduceLaunch d := by
  have hlinear : ∀ (key lead : String) (c d : Context), c.Alike d →
      Kernels.linearLaunch key c lead 4 = Kernels.linearLaunch key d lead 4 :=
    fun _ _ _ _ h => Kernels.linearLaunch_congr h.scalars h.hostSizes (by rw [h.definitions])
  refine Kernels.forall_builtin ?_ ?_ ?_ ?_
  · exact fun key => hlinear key "A"
  · exact hlinear "saxpy" "x"
  · intro c d h
    exact Kernels.Histogram.deduceLaunch_congr (hlinear "histogram" "data" c d h)
      (by rw [h.definitions]) (by rw [h.definitions])
  · exact fun _ _ _ => rfl

/-- The same launch, from the same source, and the same realization of it. -/
structure SameLaunch (a : Adapter) (c : Context) (b : Adapter) (d : Context) : Prop where
  resolved : a.resolve c = b.resolve d
  made : a.makeLaunch c = b.makeLaunch d
  realized : a.makeRealizedLaunch c = b.makeRealizedLaunch d

/-- The launch of a context is all forced or all deduced. -/
structure NeverMixed (a : Adapter) (c : Context) : Prop where
  forced : c.forced.isSufficient = true →
    a.resolve c = .ok (c.forced, .forced) ∧ a.makeLaunch c = .ok c.forced
  /-- Forced parts that are sufficient are all that matters. -/
  independent : c.forced.isSufficient = true → ∀ (b : Adapter) (d : Context),
    c.forced = d.forced → SameLaunch a c b d
  refused : c.forced.isSufficient = true → ∀ e, a.makeRealizedLaunch c = .error e →
    e = .unrealizable (.zeroAxis c.forced)
  deduced : c.forced.isSufficient = false →
    a.resolve c = (a.deduceLaunch c).map (fun parts => (parts, .deduced)) ∧
      a.makeLaunch c = a.deduceLaunch c
  /-- Forced parts that are not sufficient do not matter to a built-in kernel. -/
  unforced : c.forced.isSufficient = false → a ∈ builtinAdapters → ∀ d : Context,
    c.Alike d → d.forced.isSufficient = false → SameLaunch a c a d
  /-- Forced or deduced, what is realized is the launch that is made. -/
  realized : ∀ l, a.makeRealizedLaunch c = .ok l ↔
    ∃ parts, a.makeLaunch c = .ok parts ∧ parts.realize = .ok l
  unrealized : ∀ e, a.makeRealizedLaunch c = .error e ↔
    a.makeLaunch c = .error e ∨ ∃ parts fault, a.makeLaunch c = .ok parts ∧
      parts.realize = .error fault ∧ e = .unrealizable fault

namespace Adapter

/-- What is resolved decides the launch and its realization. -/
theorem sameLaunch_of_resolve
    {b : Adapter}
    (h : a.resolve c = b.resolve d) :
    SameLaunch a c b d := by
  have hmade : a.makeLaunch c = b.makeLaunch d := by
    rw [makeLaunch, makeLaunch, h]
  refine ⟨h, hmade, ?_⟩
  rw [makeRealizedLaunch, makeRealizedLaunch, hmade]

/-- Sufficient forced parts decide the launch alone. -/
theorem sameLaunch_of_forced
    {b : Adapter}
    (h : c.forced.isSufficient = true)
    (hforced : c.forced = d.forced) :
    SameLaunch a c b d := by
  have hd : d.forced.isSufficient = true := hforced ▸ h
  apply sameLaunch_of_resolve
  rw [resolve_of_sufficient h, resolve_of_sufficient hd, hforced]

/-- Forced parts and what is deduced never mix. -/
theorem neverMixed_resolve (a : Adapter) (c : Context) : NeverMixed a c where
  forced := fun h => ⟨resolve_of_sufficient h, makeLaunch_of_sufficient h⟩
  independent := fun h _ _ hforced => sameLaunch_of_forced h hforced
  refused := by
    intro h e he
    rw [makeRealizedLaunch_of_sufficient h, mapError_eq_error_iff] at he
    obtain ⟨fault, hfault, rfl⟩ := he
    rw [LaunchComponents.eq_zeroAxis_of_sufficient h hfault]
  realized := fun _ => makeRealizedLaunch_eq_ok_iff
  unrealized := fun _ => makeRealizedLaunch_eq_error_iff
  deduced := fun h => ⟨resolve_of_insufficient h, makeLaunch_of_insufficient h⟩
  unforced := by
    intro h ha d halike hd
    apply sameLaunch_of_resolve
    rw [resolve_of_insufficient h, resolve_of_insufficient hd, deduceLaunch_alike a ha c d halike]

end Adapter

end Precedence

end KernelLaunch
