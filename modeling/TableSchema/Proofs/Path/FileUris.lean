import TableSchema.PathResolver
import TableSchema.Proofs.Uri.Escapes

namespace TableSchema

open TableSchema.Text

namespace Uri

/-! The parts of a file URI -/

section Parts

variable {cs : List Char} (hcs : IsEscapedText cs)

include hcs

theorem isDropped_of_isEscapedText : ∀ c ∈ cs, isDropped c = false := by
  intro c hc
  have hdropped : c ≠ '\t' ∧ c ≠ '\r' ∧ c ≠ '\n' := by
    refine ⟨?_, ?_, ?_⟩
    all_goals
      rintro rfl
      exact hcs.notMem (by decide) (by decide) hc
  simp [isDropped, hdropped]

theorem takeWhile_ne_of_isEscapedText {d : Char} (hd : isLiteral d = false) (hpercent : d ≠ '%') :
    cs.takeWhile (· != d) = cs := by
  rw [List.takeWhile_eq_self_iff]
  intro c hc
  have hne : c ≠ d := by
    rintro rfl
    exact hcs.notMem hd hpercent hc
  simp [hne]

theorem checkBrackets_of_isEscapedText : checkBrackets cs = .ok () := by
  have hopens : cs.contains '[' = false := by
    simpa using hcs.notMem (d := '[') (by decide) (by decide)
  have hcloses : cs.contains ']' = false := by
    simpa using hcs.notMem (d := ']') (by decide) (by decide)
  rw [checkBrackets, hopens, hcloses]
  rfl

theorem checkAuthority_of_isEscapedText : checkAuthority cs = .ok () := by
  have hforbidden : ∀ code ∈ forbidden, 0x80 ≤ code := by decide
  have hnone : cs.any (fun c => forbidden.contains c.toNat) = false := by
    rw [List.any_eq_false]
    intro c hc hmem
    have hlarge := hforbidden c.toNat (by simpa using hmem)
    rcases hcs c hc with h | rfl
    · have hcode := toNat_of_isLiteral h
      omega
    · exact absurd hlarge (by decide)
  rw [checkAuthority, hnone]
  rfl

theorem head?_dropWhile_endsAuthority :
    ∀ c ∈ (cs.dropWhile fun c => !endsAuthority c).head?, c = '/' := by
  intro c hc
  have hends := List.head?_dropWhile_not (fun c => !endsAuthority c) cs
  rw [hc] at hends
  have hmem : c ∈ cs := List.dropWhile_subset _ (List.mem_of_mem_head? hc)
  simp only [endsAuthority, Bool.not_eq_false', Bool.or_eq_true, beq_iff_eq] at hends
  rcases hends with (hslash | rfl) | rfl
  · exact hslash
  all_goals exact absurd hmem (hcs.notMem (by decide) (by decide))

end Parts

-- Nothing of a file URI in escaped form is lost, but the part up to the next slash names a
-- host.
theorem ofText_fileUri {cs : List Char} (hcs : IsEscapedText cs) :
    ofText (PathResolver.fileUriStart ++ cs) = .ok
      { scheme := "file".toList
        authority := cs.takeWhile fun c => !endsAuthority c
        path := cs.dropWhile fun c => !endsAuthority c } := by
  have hclean : ((PathResolver.fileUriStart ++ cs).dropWhile isLeading).filter
      (fun c => !isDropped c) = PathResolver.fileUriStart ++ cs := by
    have hlead : (PathResolver.fileUriStart ++ cs).dropWhile isLeading =
        PathResolver.fileUriStart ++ cs := by rfl
    have hstart : PathResolver.fileUriStart.filter (fun c => !isDropped c) =
        PathResolver.fileUriStart := by rfl
    have hkeep : cs.filter (fun c => !isDropped c) = cs := by
      rw [List.filter_eq_self]
      intro c hc
      rw [isDropped_of_isEscapedText hcs c hc]
      rfl
    rw [hlead, List.filter_append, hstart, hkeep]
  have hscheme : splitScheme (PathResolver.fileUriStart ++ cs) =
      ("file".toList, '/' :: '/' :: cs) := by rfl
  have hauthority : splitAuthority ('/' :: '/' :: cs) =
      (cs.takeWhile fun c => !endsAuthority c, cs.dropWhile fun c => !endsAuthority c) := by rfl
  have hhost : IsEscapedText (cs.takeWhile fun c => !endsAuthority c) :=
    fun c hc => hcs c (List.takeWhile_subset _ hc)
  have hbehind : IsEscapedText (cs.dropWhile fun c => !endsAuthority c) :=
    fun c hc => hcs c (List.dropWhile_subset _ hc)
  have hfragment := takeWhile_ne_of_isEscapedText hbehind (d := '#') (by decide) (by decide)
  have hquery := takeWhile_ne_of_isEscapedText hbehind (d := '?') (by decide) (by decide)
  have hparameter : parameterSchemes.contains (String.ofList "file".toList) = false := by decide
  rw [ofText, hclean]
  simp only [hscheme, hauthority, checkBrackets_of_isEscapedText hhost,
    checkAuthority_of_isEscapedText hhost, hfragment, hquery, hparameter]
  rfl

end Uri

namespace PathResolver

/-! File URIs without a substitution -/

theorem substitute_of_replace?_eq_none {resolver : PathResolver} {path : String}
    (h : ∀ substitution ∈ resolver.substitutions, substitution.replace? path = none) :
    resolver.substitute path = path := by
  rw [substitute, List.findSome?_eq_none_iff.mpr h]
  rfl

theorem resolve_of_not_isPrefixOf {resolver : PathResolver} {path : String}
    (h : fileUriStart.isPrefixOf (resolver.substitute path).toList = false) :
    resolver.resolve path = .ok (resolver.substitute path) := by
  rw [resolve, h]
  rfl

-- What becomes of a path that is a file URI after the substitution.
theorem resolve_of_fileUri {resolver : PathResolver} {path : String} {cs : List Char}
    (hpath : (resolver.substitute path).toList = fileUriStart ++ cs)
    (hcs : Uri.IsEscapedText cs) :
    resolver.resolve path = .ok (String.ofList (withoutDriveSlash
      (Uri.unescape (cs.dropWhile fun c => !Uri.endsAuthority c)))) := by
  have hstart : fileUriStart.isPrefixOf (resolver.substitute path).toList = true := by
    rw [hpath, List.isPrefixOf_iff_prefix]
    exact List.prefix_append _ _
  rw [resolve, hstart, hpath, Uri.ofText_fileUri hcs]
  rfl

theorem withoutDriveSlash_of_ne {path : List Char} (h : path[2]? ≠ some ':') :
    withoutDriveSlash path = path := by
  unfold withoutDriveSlash
  split
  · exact absurd rfl h
  · rfl

-- A path is what its file URI leads to, in each form that the URI can have. As the slash in
-- front is no escape, there is no host.
theorem resolve_fileUri_eq_path (resolver : PathResolver) {path : String} {cs : List Char}
    (hescapes : Uri.Escapes (Utf8.encode path.toList) cs) (hroot : cs.head? = some '/')
    (hdrive : path.toList[2]? ≠ some ':')
    (hnone : ∀ substitution ∈ resolver.substitutions,
      substitution.replace? ("file://" ++ String.ofList cs) = none) :
    resolver.resolve ("file://" ++ String.ofList cs) = .ok path := by
  have hpath : (resolver.substitute ("file://" ++ String.ofList cs)).toList =
      fileUriStart ++ cs := by
    rw [substitute_of_replace?_eq_none hnone]
    simp only [String.toList_append, String.toList_ofList]
    rfl
  have hbehind : (cs.dropWhile fun c => !Uri.endsAuthority c) = cs := by
    obtain ⟨rest, rfl⟩ := List.head?_eq_some_iff.mp hroot
    rfl
  rw [resolve_of_fileUri hpath hescapes.isEscapedText, hbehind, Uri.unescape_of_escapes hescapes,
    withoutDriveSlash_of_ne hdrive, String.ofList_toList]

-- A path with a character of two bytes, one that begins a query, and an escape that is none.
def hardPath : String :=
  "/é?%2F"

def hardResolver : PathResolver where
  substitutions := [⟨"/é", "/e"⟩, ⟨"file:///e", "/e"⟩, ⟨"", "/"⟩]
  caseSensitive := false

theorem resolve_fileUri_eq_path_of_hardPath :
    Uri.Escapes (Utf8.encode hardPath.toList) "/%c3%A9%3f%252%46".toList ∧
      "/%c3%A9%3f%252%46".toList.head? = some '/' ∧ hardPath.toList[2]? ≠ some ':' ∧
      (∀ substitution ∈ hardResolver.substitutions,
        substitution.replace? ("file://" ++ String.ofList "/%c3%A9%3f%252%46".toList) = none) ∧
      hardResolver.resolve ("file://" ++ String.ofList "/%c3%A9%3f%252%46".toList) =
        .ok hardPath := by
  have hbytes : Utf8.encode hardPath.toList = [0x2F, 0xC3, 0xA9, 0x3F, 0x25, 0x32, 0x46] := by
    decide
  have hescapes : Uri.Escapes (Utf8.encode hardPath.toList) "/%c3%A9%3f%252%46".toList := by
    rw [hbytes]
    have hslash : Uri.isLiteral '/' = true := by decide
    have htwo : Uri.isLiteral '2' = true := by decide
    refine .literal hslash (.escape ?_ ?_ (.escape ?_ ?_ (.escape ?_ ?_ (.escape ?_ ?_
      (.literal htwo (.escape ?_ ?_ .nil))))))
    all_goals decide
  have hdrive : hardPath.toList[2]? ≠ some ':' := by decide
  have hnone : ∀ substitution ∈ hardResolver.substitutions,
      substitution.replace? ("file://" ++ String.ofList "/%c3%A9%3f%252%46".toList) = none := by
    decide
  exact ⟨hescapes, rfl, hdrive, hnone,
    resolve_fileUri_eq_path hardResolver hescapes rfl hdrive hnone⟩

end PathResolver

end TableSchema
