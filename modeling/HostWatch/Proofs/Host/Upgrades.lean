import Mathlib.Data.List.Infix
import Mathlib.Data.List.TakeWhile
import HostWatch.Host.Packages
import HostWatch.Proofs.Text.Occurs

/-!
# Security updates among the upgrades

`upgrades_counted`: every line about an upgrade is counted, and as a security update just if
`-security` stands in the name of its package or anywhere in a pocket. So what comes from a pocket
that ends in `-security` is never missed, and the count is too high just if one of the other lines
says `-security` too. `security_counted_by_name`: a package name is enough for that.

A package name ends at the first slash and a pocket at the next comma (`origin_of_field`), and
`-security` holds neither of the two; so it does not reach across them (`namesSecurity_iff`).
-/

namespace HostWatch.PackageTool

variable {line : List Char}

/-! ## Origins -/

/-- The name of the package that a line is about. -/
def packageName (line : List Char) : List Char :=
  ((Text.words line).headD []).takeWhile (· ≠ '/')

/-- The pockets that the package comes from, which follow its name. -/
def pockets (line : List Char) : List (List Char) :=
  match ((Text.words line).headD []).dropWhile (· ≠ '/') with
  | [] => []
  | _ :: origins => Text.pieces (· = ',') origins

/-- From the first field `name/pocket,pocket` of a line, the name and the pockets are read. -/
theorem origin_of_field {name pocket : List Char} {others : List (List Char)}
    (nameWhole : ∀ c ∈ name, c ≠ '/' ∧ Text.isBlank c = false)
    (pocketsWhole : ∀ p ∈ pocket :: others, ∀ c ∈ p, c ≠ ',' ∧ Text.isBlank c = false)
    (rest : List Char) :
    let line := (name ++ '/' :: (pocket ++ others.flatMap (',' :: ·))) ++ ' ' :: rest
    packageName line = name ∧ pockets line = pocket :: others := by
  intro line
  have blankless : ∀ c ∈ name ++ '/' :: (pocket ++ others.flatMap (',' :: ·)),
      ¬ Text.isBlank c = true := by
    intro c hc
    rw [Bool.not_eq_true]
    simp only [List.mem_append, List.mem_cons, List.mem_flatMap] at hc
    rcases hc with hc | rfl | hc | ⟨p, hp, rfl | hc⟩
    · exact (nameWhole c hc).2
    · rfl
    · exact (pocketsWhole pocket List.mem_cons_self c hc).2
    · rfl
    · exact (pocketsWhole p (List.mem_cons_of_mem _ hp) c hc).2
  have word : (Text.words line).headD [] = name ++ '/' :: (pocket ++ others.flatMap (',' :: ·)) :=
    Text.headD_words (by simp) blankless (show Text.isBlank ' ' = true from rfl) rest
  have noSlash : ∀ c ∈ name, decide (c ≠ '/') = true := fun c hc => decide_eq_true (nameWhole c hc).1
  have noComma : ∀ p ∈ pocket :: others, ∀ c ∈ p, ¬ decide (c = ',') = true := fun p hp c hc => by
    simpa using (pocketsWhole p hp c hc).1
  have atSlash : ∀ text, ('/' :: text).dropWhile (· ≠ '/') = '/' :: text := fun _ => rfl
  have upToSlash : ∀ text, ('/' :: text).takeWhile (· ≠ '/') = [] := fun _ => rfl
  rw [packageName, pockets, word, List.takeWhile_append_of_pos noSlash, upToSlash, List.append_nil,
    List.dropWhile_append_of_pos noSlash, atSlash]
  exact ⟨rfl, Text.pieces_joined (by decide) noComma⟩

example : pockets "bash/jammy-updates,jammy-security 5.1 amd64 [upgradable from: 5.0]".toList =
    ["jammy-updates".toList, "jammy-security".toList] := by decide +kernel

/-- A pocket of the line ends in `-security`. -/
def FromSecurityPocket (line : List Char) : Prop :=
  ∃ pocket ∈ pockets line, "-security".toList <:+ pocket

instance : DecidablePred FromSecurityPocket := fun line =>
  inferInstanceAs (Decidable (∃ pocket ∈ pockets line, _))

/-- The line says `-security`, in the name of the package or in a pocket. -/
def SaysSecurity (line : List Char) : Prop :=
  "-security".toList <:+: packageName line ∨
    ∃ pocket ∈ pockets line, "-security".toList <:+: pocket

instance : DecidablePred SaysSecurity := fun line =>
  inferInstanceAs (Decidable (_ ∨ ∃ pocket ∈ pockets line, _))

theorem FromSecurityPocket.saysSecurity (h : FromSecurityPocket line) : SaysSecurity line := by
  obtain ⟨pocket, listed, ends⟩ := h
  exact .inr ⟨pocket, listed, ends.isInfix⟩

theorem isUpgradable_iff : IsUpgradable line ↔ "[upgradable from".toList <:+: line :=
  Text.occurs_iff

theorem ne_of_mem_security : ∀ c ∈ "-security".toList, c ≠ '/' ∧ c ≠ ',' := by
  simp

/-- The first word names security just if its package or one of its pockets does. -/
theorem namesSecurity_iff : NamesSecurity line ↔ SaysSecurity line := by
  rw [NamesSecurity, Text.occurs_iff, SaysSecurity, packageName, pockets]
  generalize (Text.words line).headD [] = word
  have cut : word.takeWhile (· ≠ '/') ++ word.dropWhile (· ≠ '/') = word :=
    List.takeWhile_append_dropWhile
  split
  · next unslashed =>
    rw [unslashed, List.append_nil] at cut
    rw [cut]
    simp
  · next slash origins atSlash =>
    have isSlash : decide (slash = '/') = true := by
      have stop := List.head?_dropWhile_not (· ≠ '/') word
      rw [atSlash] at stop
      simpa using stop
    have name : ∀ c ∈ word.takeWhile (· ≠ '/'), ¬ decide (c = '/') = true := fun c hc => by
      simpa using List.mem_takeWhile_imp hc
    have noSlash : ∀ c ∈ "-security".toList, ¬ decide (c = '/') = true := fun c hc => by
      simpa using (ne_of_mem_security c hc).1
    have noComma : ∀ c ∈ "-security".toList, ¬ decide (c = ',') = true := fun c hc => by
      simpa using (ne_of_mem_security c hc).2
    rw [atSlash] at cut
    rw [← Text.infix_iff_pieces noComma, ← Text.infix_append_gap noSlash name isSlash, cut]

/-! ## Counts -/

theorem countUpgradable_eq (output : List Char) :
    let found := (Text.lines output).filter fun line => "[upgradable from".toList <:+: line
    countUpgradable output = ⟨found.length, found.countP (SaysSecurity ·)⟩ := by
  simp only [countUpgradable, isUpgradable_iff, namesSecurity_iff]

/-- If one condition holds wherever another does, they hold equally often just if they hold of the
same. -/
theorem countP_eq_iff {p q : α → Bool} {l : List α} (h : ∀ a, q a = true → p a = true) :
    l.countP p = l.countP q ↔ ∀ a ∈ l, p a = true → q a = true := by
  refine ⟨fun same a ha hp => ?_, fun back => List.countP_congr fun a ha => ⟨back a ha, h a⟩⟩
  have fewer : (l.filter q).Sublist (l.filter p) := List.monotone_filter_right l h
  have alike : l.filter q = l.filter p := by
    refine fewer.eq_of_length ?_
    rw [← List.countP_eq_length_filter, ← List.countP_eq_length_filter, same]
  have both : a ∈ l.filter q := alike ▸ List.mem_filter.2 ⟨ha, hp⟩
  exact (List.mem_filter.1 both).2

/-- **Upgrades.** The lines that are counted are those with `[upgradable from`, and those of them
that say `-security` in the name of the package or in a pocket count as security updates. These are
the lines from a pocket that ends in `-security`, and as many as they are just if no other line
says `-security`. -/
theorem upgrades_counted (output : String) :
    let found := (Text.lines output.toList).filter fun line => "[upgradable from".toList <:+: line
    let counts := apt.count output
    counts.pending = found.length ∧
      counts.security = found.countP (SaysSecurity ·) ∧
      found.countP (FromSecurityPocket ·) ≤ counts.security ∧ counts.security ≤ counts.pending ∧
      (counts.security = found.countP (FromSecurityPocket ·) ↔
        ∀ line ∈ found, SaysSecurity line → FromSecurityPocket line) := by
  intro found counts
  have counted : counts = ⟨found.length, found.countP (SaysSecurity ·)⟩ :=
    countUpgradable_eq output.toList
  have weaker : ∀ line, decide (FromSecurityPocket line) = true → decide (SaysSecurity line) = true :=
    fun line h => decide_eq_true (of_decide_eq_true h).saysSecurity
  rw [counted]
  refine ⟨rfl, rfl, List.countP_mono_left fun line _ => weaker line, List.countP_le_length, ?_⟩
  simpa only [decide_eq_true_eq] using countP_eq_iff weaker

/-- An ordinary update of a package with such a name is counted as a security update. -/
theorem security_counted_by_name :
    let output :=
      "libapache2-mod-security2/jammy-updates 2.9.5-1.1 amd64 [upgradable from: 2.9.5-1]\n"
    apt.count output = ⟨1, 1⟩ ∧
      (Text.lines output.toList).countP (FromSecurityPocket ·) = 0 := by
  decide +kernel

end HostWatch.PackageTool
