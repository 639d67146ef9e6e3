import AppBundle.Proofs.Resolution.Selection
import Mathlib.Data.List.Nodup

/-! # When resolving fails

A built application is refused on the platforms that it does not target and nowhere else. Where it is
resolved, the only thing that can go wrong is a token that names a subpath that the distribution of its
interpreter lacks, and then the error names the first such token: commands come before bindings, and the
texts of a command are visited in the order of `Command.strings`.
-/

namespace AppBundle

namespace Application

/-- A token refers to an interpreter that is available on a platform, and names a subpath that is not
in the distribution. -/
def Dangling (app : Application) (platform : Platform) (token : Token) : Prop :=
  ∃ interpreter ∈ app.interpreters, ∃ dist, interpreter.distribution? platform = some dist ∧
    token.id = interpreter.id.text ∧
      ∃ key, token.key = some key ∧ ∀ entry ∈ dist.placeholders.toList, entry.1.text ≠ key

/-- A token is the first dangling one: it stands in a text, and none stands in front of it in this text
or anywhere in the texts before. -/
def FirstDangling (app : Application) (platform : Platform) (token : Token) : Prop :=
  token.WellFormed ∧ app.Dangling platform token ∧
    ∃ earlier text later, app.texts = earlier ++ text :: later ∧
      (∀ other ∈ earlier, ∀ ref : Token, ref.OccursIn other → ¬ app.Dangling platform ref) ∧
        ∃ before behind : String, text = before ++ ("#\x7b" ++ token.inner ++ "\x7d") ++ behind ∧
          ∀ ref : Token, ref.OccursIn before → ¬ app.Dangling platform ref

variable {app : Application} {platform : Platform}

/-- Rewriting the commands and then the bindings fails on the first text on which rewriting fails. -/
theorem rewriting_eq_error_iff {result : Type} {rewrite : String → Except BundleError String}
    {error : BundleError} {finish : List Command → List Command → result} :
    (do
      let commands ← app.commands.mapM (Command.mapStringsM rewrite)
      let bindings ← app.bindings.mapM (Command.mapStringsM rewrite)
      return finish commands bindings : Except BundleError result) = .error error ↔
      FailsFirst rewrite error app.texts := by
  rw [rewriting_eq, Except.bind_eq_error_iff, mapM_eq_error_iff]
  exact or_iff_left nofun

/-- A token is refused among the available distributions exactly if it is dangling. -/
theorem Consistent.expandTokenAmong_eq_error_iff (consistent : app.Consistent)
    (targeted : platform ∈ app.platforms) {token : Token} {error : ModelError} :
    Distribution.expandTokenAmong (app.availableOn platform) token = .error error ↔
      app.Dangling platform token ∧
        ∃ key, token.key = some key ∧ error = .unknownPlaceholder token.id key := by
  have distinct := consistent.ids_nodup targeted
  have lacks_iff : app.Dangling platform token ↔
      ∃ dist ∈ app.availableOn platform, dist.Lacks token := by
    simp only [mem_availableOn_iff]
    constructor
    · rintro ⟨interpreter, member, dist, present, same, absent⟩
      have own := consistent.own_id targeted interpreter member dist present
      exact ⟨dist, ⟨interpreter, member, present⟩, own ▸ same, absent⟩
    · rintro ⟨dist, ⟨interpreter, member, present⟩, same, absent⟩
      have own := consistent.own_id targeted interpreter member dist present
      exact ⟨interpreter, member, dist, present, own ▸ same, absent⟩
  rw [lacks_iff]
  by_cases known : ∃ dist ∈ app.availableOn platform, token.id = dist.id.text
  · obtain ⟨dist, member, same⟩ := known
    rw [Distribution.expandTokenAmong_of_mem distinct member same,
      Distribution.expandToken_eq_error_iff]
    constructor
    · rintro ⟨lacks, named⟩
      exact ⟨⟨dist, member, lacks⟩, named⟩
    · rintro ⟨⟨other, otherMember, lacks⟩, named⟩
      have unique : other = dist := by
        refine List.inj_on_of_nodup_map distinct otherMember member ?_
        exact Identifier.text_inj (lacks.1.symm.trans same)
      exact ⟨unique ▸ lacks, named⟩
  · push Not at known
    rw [Distribution.expandTokenAmong_of_forall_ne known]
    refine iff_of_false (by simp) ?_
    rintro ⟨⟨dist, member, same, -⟩, -⟩
    exact known dist member same

/-- A token passes among the available distributions exactly if it is not dangling. -/
theorem Consistent.expandTokenAmong_passes_iff (consistent : app.Consistent)
    (targeted : platform ∈ app.platforms) {token : Token} :
    (∃ text?, Distribution.expandTokenAmong (app.availableOn platform) token = .ok text?) ↔
      ¬ app.Dangling platform token := by
  simp only [Except.exists_eq_ok_iff, ne_eq, consistent.expandTokenAmong_eq_error_iff targeted]
  constructor
  · intro passes dangling
    have ⟨_, _, _, _, _, key, named, _⟩ := dangling
    exact passes _ ⟨dangling, key, named, rfl⟩
  · rintro sound _ ⟨dangling, -⟩
    exact sound dangling

/-- Expanding a text fails on the first dangling token in it. -/
theorem Consistent.expandAmong_eq_error_iff (consistent : app.Consistent)
    (targeted : platform ∈ app.platforms) {text : String} {error : BundleError} :
    (Distribution.expandAmong (app.availableOn platform) text).mapError .model = .error error ↔
      ∃ token key, token.WellFormed ∧ app.Dangling platform token ∧
        (token.key = some key ∧ error = .model (.unknownPlaceholder token.id key)) ∧
        ∃ before behind : String, text = before ++ ("#\x7b" ++ token.inner ++ "\x7d") ++ behind ∧
          ∀ ref : Token, ref.OccursIn before → ¬ app.Dangling platform ref := by
  simp only [Except.mapError_eq_error_iff, Distribution.expandAmong, Token.expandM_eq_error_iff,
    FailsFirst, consistent.expandTokenAmong_passes_iff targeted,
    consistent.expandTokenAmong_eq_error_iff targeted, Token.scan_eq_append_cons_iff]
  constructor
  · rintro ⟨_, ⟨_, token, _, ⟨formed, before, behind, same, rfl, rfl⟩, sound, dangling, key, named,
      rfl⟩, rfl⟩
    refine ⟨token, key, formed, dangling, ⟨named, rfl⟩, before, behind, same, fun ref occurs => ?_⟩
    exact sound ref (Token.mem_scan_iff.2 occurs)
  · rintro ⟨token, key, formed, dangling, ⟨named, rfl⟩, before, behind, same, sound⟩
    refine ⟨_, ⟨_, token, _, ⟨formed, before, behind, same, rfl, rfl⟩, fun ref found => ?_, dangling,
      key, named, rfl⟩, rfl⟩
    exact sound ref (Token.mem_scan_iff.1 found)

/-- A text passes exactly if no dangling token occurs in it. -/
theorem Consistent.expandAmong_passes_iff (consistent : app.Consistent)
    (targeted : platform ∈ app.platforms) {text : String} :
    (∃ expanded, (Distribution.expandAmong (app.availableOn platform) text).mapError BundleError.model =
      .ok expanded) ↔ ∀ token : Token, token.OccursIn text → ¬ app.Dangling platform token := by
  simp only [Except.mapError_eq_ok_iff, Except.exists_eq_ok_iff, ne_eq, Distribution.expandAmong,
    Token.expandM_eq_error_iff, ← forall_ok_iff, consistent.expandTokenAmong_passes_iff targeted,
    Token.mem_scan_iff]

/-- Resolving for a targeted platform fails exactly on the first dangling token. -/
theorem Consistent.result_resolve_eq_error_iff (consistent : app.Consistent)
    (targeted : platform ∈ app.platforms) {error : BundleError} :
    (app.resolve platform).result = .error error ↔
      ∃ token key, token.key = some key ∧ error = .model (.unknownPlaceholder token.id key) ∧
        app.FirstDangling platform token := by
  rw [consistent.result_resolve targeted]
  refine rewriting_eq_error_iff.trans ?_
  simp only [FailsFirst, consistent.expandAmong_passes_iff targeted,
    consistent.expandAmong_eq_error_iff targeted, FirstDangling]
  constructor
  · rintro ⟨earlier, text, later, same, sound, token, key, formed, dangling, ⟨named, rfl⟩, stands⟩
    exact ⟨token, key, named, rfl, formed, dangling, earlier, text, later, same, sound, stands⟩
  · rintro ⟨token, key, named, rfl, formed, dangling, earlier, text, later, same, sound, stands⟩
    exact ⟨earlier, text, later, same, sound, token, key, formed, dangling, ⟨named, rfl⟩, stands⟩

/-- Resolving for a targeted platform succeeds exactly if no dangling token occurs in a text. -/
theorem Consistent.result_resolve_passes_iff (consistent : app.Consistent)
    (targeted : platform ∈ app.platforms) :
    (∃ resolution, (app.resolve platform).result = .ok resolution) ↔
      ¬ ∃ text ∈ app.texts, ∃ token : Token, token.OccursIn text ∧ app.Dangling platform token := by
  rw [consistent.result_resolve targeted]
  push Not
  simp only [Except.exists_eq_ok_iff, ne_eq, rewriting_eq_error_iff, ← forall_ok_iff,
    consistent.expandAmong_passes_iff targeted]

/-- The error names the first dangling token. -/
theorem Consistent.result_resolve_eq_missing_iff (consistent : app.Consistent)
    (targeted : platform ∈ app.platforms) {id key : String} :
    (app.resolve platform).result = .error (.model (.unknownPlaceholder id key)) ↔
      app.FirstDangling platform ⟨id, some key⟩ := by
  rw [consistent.result_resolve_eq_error_iff targeted]
  constructor
  · rintro ⟨⟨_, _⟩, _, rfl, same, first⟩
    cases same
    exact first
  · intro first
    exact ⟨⟨id, some key⟩, key, rfl, rfl, first⟩

/-- A dangling token is all that can go wrong on a targeted platform. -/
theorem Consistent.exists_result_resolve_missing_iff (consistent : app.Consistent)
    (targeted : platform ∈ app.platforms) :
    (∃ id key, (app.resolve platform).result = .error (.model (.unknownPlaceholder id key))) ↔
      ∃ text ∈ app.texts, ∃ token : Token, token.OccursIn text ∧ app.Dangling platform token := by
  rw [← not_iff_not, ← consistent.result_resolve_passes_iff targeted, Except.exists_eq_ok_iff]
  constructor
  · intro none error failed
    obtain ⟨token, key, -, rfl, -⟩ := (consistent.result_resolve_eq_error_iff targeted).1 failed
    exact none ⟨token.id, key, failed⟩
  · rintro never ⟨id, key, failed⟩
    exact never _ failed

end Application

/-- When resolving a built application for a platform fails, and with which error. It is refused exactly
on the platforms that it does not target, no interpreter hands over a foreign distribution, and otherwise
a dangling token is the only thing that can go wrong, of which the error names the first. The providers
of the interpreters may be any, whether or not they were made from settings. -/
theorem ApplicationDraft.resolve_outcome (draft : ApplicationDraft) (app : Application)
    (platform : Platform) (built : draft.build.result = .ok app) :
    (∀ name other, (app.resolve platform).result = .error (.platformNotTargeted name other) ↔
      platform ∉ app.platforms ∧ name = app.name ∧ other = platform) ∧
    (∀ interpreter dist,
      (app.resolve platform).result ≠ .error (.foreignDistribution interpreter dist)) ∧
    (platform ∈ app.platforms →
      ((∃ id key, (app.resolve platform).result = .error (.model (.unknownPlaceholder id key))) ↔
        ∃ text ∈ app.texts, ∃ token : Token, token.OccursIn text ∧ app.Dangling platform token) ∧
      ∀ id key, (app.resolve platform).result = .error (.model (.unknownPlaceholder id key)) ↔
        app.FirstDangling platform ⟨id, some key⟩) ∧
    ((∃ resolution, (app.resolve platform).result = .ok resolution) ↔
      platform ∈ app.platforms ∧ ¬ ∃ text ∈ app.texts, ∃ token : Token,
        token.OccursIn text ∧ app.Dangling platform token) := by
  obtain ⟨-, consistent⟩ := build_eq_ok_iff.1 built
  by_cases targeted : platform ∈ app.platforms
  · have fails {error : BundleError} (failed : (app.resolve platform).result = .error error) :
        ∃ id key, error = .model (.unknownPlaceholder id key) := by
      obtain ⟨token, key, -, same, -⟩ := (consistent.result_resolve_eq_error_iff targeted).1 failed
      exact ⟨token.id, key, same⟩
    refine ⟨fun name other => iff_of_false ?_ (fun no => no.1 targeted), ?_, fun _ => ⟨?_, ?_⟩, ?_⟩
    · intro refused
      obtain ⟨_, _, other⟩ := fails refused
      cases other
    · intro interpreter dist foreign
      obtain ⟨_, _, other⟩ := fails foreign
      cases other
    · exact consistent.exists_result_resolve_missing_iff targeted
    · exact fun id key => consistent.result_resolve_eq_missing_iff targeted
    · rw [consistent.result_resolve_passes_iff targeted]
      exact (and_iff_right targeted).symm
  · rw [Application.result_resolve_of_not_targeted targeted]
    refine ⟨fun name other => ?_, nofun, fun yes => absurd yes targeted, ?_⟩
    · simp [targeted, eq_comm]
    · exact iff_of_false nofun fun no => targeted no.1

namespace ApplicationDraft

/-- A draft whose interpreter has one named subpath. The texts of its command have a token with this
name, a token of another interpreter and, behind an opening that is not closed, two tokens with other
names. -/
def missingSubpath : ApplicationDraft :=
  let py : Identifier := ⟨"py", by decide⟩
  let pip : Identifier := ⟨"pip", by decide⟩
  let dist : Distribution :=
    { id := py
      file := { File.ofName "py.zip" with key := some "py" }
      url := "u/py.zip"
      placeholders := ⟨[(pip, "bin/pip")], List.pairwise_singleton _ _⟩ }
  let provider : StaticProvider :=
    { identifier := py
      isLazy := true
      distributions := ⟨[(.linuxX86_64, dist)], List.pairwise_singleton _ _⟩ }
  { start "demo" .linuxX86_64 with
    commands := [{ Command.ofExe "#\x7bpy:pip\x7d" with
      args := ["#\x7bjs:pip\x7d", "#\x7bx#\x7bpy:lib\x7d#\x7bpy:doc\x7d"] }]
    interpreters := [⟨py, .static provider⟩]
    files := [.ofName "app.zip"] }

/-- The error names the first of the two tokens. -/
theorem resolve_missingSubpath :
    missingSubpath.build.result = .ok missingSubpath.toApplication ∧
      .linuxX86_64 ∈ missingSubpath.toApplication.platforms ∧
      (missingSubpath.toApplication.resolve .linuxX86_64).result =
        .error (.model (.unknownPlaceholder "py" "lib")) := by
  have built : missingSubpath.build.result = .ok missingSubpath.toApplication := by rfl
  have targeted : .linuxX86_64 ∈ missingSubpath.toApplication.platforms := by decide
  refine ⟨built, targeted, ?_⟩
  refine (((resolve_outcome _ _ _ built).2.2.1 targeted).2 "py" "lib").2 ?_
  have sound (token : Token) (passes : token.id ≠ "py" ∨ token.key = some "pip") :
      ¬ missingSubpath.toApplication.Dangling .linuxX86_64 token := by
    rintro ⟨interpreter, member, dist, present, same, key, named, absent⟩
    cases List.mem_singleton.1 member
    cases present
    rcases passes with other | known
    · exact other same
    · cases named.symm.trans known
      exact absent _ (List.mem_singleton_self _) rfl
  have missing : missingSubpath.toApplication.Dangling .linuxX86_64 ⟨"py", some "lib"⟩ :=
    ⟨_, List.mem_singleton_self _, _, rfl, rfl, "lib", rfl, by decide⟩
  have named : Token.scan "#\x7bpy:pip\x7d" = [⟨"py", some "pip"⟩] := by cbv
  have foreign : Token.scan "#\x7bjs:pip\x7d" = [⟨"js", some "pip"⟩] := by cbv
  have unclosed : Token.scan "#\x7bx" = [] := by cbv
  have read : Token.parse? "py:lib" = some ⟨"py", some "lib"⟩ := by decide
  have formed := ((Token.parse?_eq_some_iff (by decide)).1 read).1
  refine ⟨formed, missing, ["#\x7bpy:pip\x7d", "#\x7bjs:pip\x7d"], _, [], rfl, ?_, "#\x7bx",
    "#\x7bpy:doc\x7d", rfl, ?_⟩
  · intro other member token occurs
    rw [← Token.mem_scan_iff] at occurs
    rcases List.mem_pair.1 member with rfl | rfl
    · rw [named, List.mem_singleton] at occurs
      exact sound token (.inr (occurs ▸ rfl))
    · rw [foreign, List.mem_singleton] at occurs
      exact sound token (.inl (occurs ▸ by decide))
  · intro token occurs
    rw [← Token.mem_scan_iff, unclosed] at occurs
    cases occurs

end ApplicationDraft

end AppBundle
