import TableSchema.Proofs.Path.FileUris

namespace TableSchema

open TableSchema.Text

theorem Text.afterFront?_append (front cs : List Char) :
    afterFront? front (front ++ cs) = some cs := by
  induction front with
  | nil => rfl
  | cons c front ih => rw [List.cons_append, afterFront?, if_pos rfl, ih]

theorem Substitution.replace?_append {substitution : Substitution}
    (h : substitution.source.toList ≠ []) (rest : String) :
    substitution.replace? (substitution.source ++ rest) = some (substitution.target ++ rest) := by
  have hsource : substitution.source.isEmpty = false := by
    rw [Bool.eq_false_iff]
    intro hempty
    rw [String.isEmpty_iff.mp hempty] at h
    exact h rfl
  rw [replace?, hsource, String.toList_append, afterFront?_append]
  simp

namespace PathResolver

/-! File URIs that begin in a target -/

-- A text without a colon completes the beginning of a file URI only behind a scheme.
theorem take_of_prefix_append {front cs : List Char} (h : fileUriStart <+: front ++ cs)
    (hcolon : ':' ∉ cs) : front.take 5 = "file:".toList := by
  obtain ⟨rest, hrest⟩ := h
  have hlength : 5 ≤ front.length := by
    by_contra hshort
    have hlast : (front ++ cs)[4]? = some ':' := by
      rw [← hrest]
      rfl
    rw [List.getElem?_append_right (by omega)] at hlast
    exact hcolon (List.mem_of_getElem? hlast)
  rw [← List.take_append_of_le_length hlength, ← hrest]
  rfl

-- What such a URI leads to is empty, begins with a slash or begins with a drive.
theorem withoutDriveSlash_ne_cons {path : List Char} (hroot : ∀ c ∈ path.head?, c = '/')
    (rest : List Char) : withoutDriveSlash path ≠ 'f' :: 'i' :: rest := by
  intro h
  unfold withoutDriveSlash at h
  split at h
  · cases h
  · rw [h] at hroot
    cases hroot 'f' rfl

theorem head?_unescape {cs : List Char} (hroot : ∀ c ∈ cs.head?, c = '/') :
    ∀ c ∈ (Uri.unescape cs).head?, c = '/' := by
  cases cs with
  | nil => simp
  | cons c cs =>
      have hslash : c = '/' := hroot c rfl
      subst hslash
      rw [Uri.unescape_cons (by decide)]
      simp

section Substituted

variable {resolver : PathResolver} {source target rest : String} {cs : List Char}
  (hresolver : resolver.substitutions = [⟨source, target⟩])
  (hsource : fileUriStart <+: source.toList) (htarget : ¬fileUriStart <+: target.toList)
  (hcs : Uri.IsEscapedText cs)

include hresolver hsource

theorem substitute_source_append (text : String) :
    resolver.substitute (source ++ text) = target ++ text := by
  have hne : source.toList ≠ [] := by
    intro hnil
    rw [hnil] at hsource
    exact absurd hsource (by decide)
  have hreplace : Substitution.replace? ⟨source, target⟩ (source ++ text) = some (target ++ text) :=
    Substitution.replace?_append hne text
  rw [substitute, hresolver, List.findSome?_cons, hreplace]
  rfl

-- Only the front of a path is looked at when it has been replaced. What stands behind the
-- target is left as it was.
theorem resolve_source_append (h : ¬fileUriStart <+: target.toList ++ cs) :
    resolver.resolve (source ++ String.ofList cs) = .ok (target ++ String.ofList cs) := by
  have hsubstitute := substitute_source_append hresolver hsource (String.ofList cs)
  have hstart : fileUriStart.isPrefixOf
      (resolver.substitute (source ++ String.ofList cs)).toList = false := by
    rw [hsubstitute, String.toList_append, String.toList_ofList, Bool.eq_false_iff]
    intro hstart
    exact h (List.isPrefixOf_iff_prefix.mp hstart)
  rw [resolve_of_not_isPrefixOf hstart, hsubstitute]

include htarget hcs

-- A file URI again is read as one, and its scheme is lost.
theorem resolve_source_append_ne (h : fileUriStart <+: target.toList ++ cs) :
    resolver.resolve (source ++ String.ofList cs) ≠ .ok (target ++ rest) := by
  have hcolon : ':' ∉ cs := hcs.notMem (by decide) (by decide)
  have hscheme := take_of_prefix_append h hcolon
  obtain ⟨behind, hbehind⟩ := h
  have hmem : Uri.IsEscapedText behind := by
    obtain ⟨more, hmore, -⟩ | ⟨front, -, hfront⟩ := List.append_eq_append_iff.mp hbehind
    · exact absurd ⟨more, hmore.symm⟩ htarget
    · intro c hc
      exact hcs c (hfront ▸ List.mem_append_right front hc)
  have hpath : (resolver.substitute (source ++ String.ofList cs)).toList =
      fileUriStart ++ behind := by
    rw [substitute_source_append hresolver hsource, String.toList_append, String.toList_ofList,
      hbehind]
  have hroot := Uri.head?_dropWhile_endsAuthority hmem
  rw [resolve_of_fileUri hpath hmem]
  intro heq
  have htext := congrArg String.toList (Except.ok.inj heq)
  rw [String.toList_ofList, String.toList_append, ← List.take_append_drop 5 target.toList, hscheme]
    at htext
  exact withoutDriveSlash_ne_cons (head?_unescape hroot) _ htext

end Substituted

-- What stands behind the source is not decoded. With that, the path is the target and the
-- decoded rest only if there is nothing to decode.
theorem resolve_source_append_eq_iff {resolver : PathResolver} {source target rest : String}
    {cs : List Char} (hresolver : resolver.substitutions = [⟨source, target⟩])
    (hsource : fileUriStart <+: source.toList) (htarget : ¬fileUriStart <+: target.toList)
    (hescapes : Uri.Escapes (Utf8.encode rest.toList) cs) :
    (¬fileUriStart <+: target.toList ++ cs →
      resolver.resolve (source ++ String.ofList cs) = .ok (target ++ String.ofList cs)) ∧
    (resolver.resolve (source ++ String.ofList cs) = .ok (target ++ rest) ↔
      cs = rest.toList ∧ ¬fileUriStart <+: target.toList ++ cs) := by
  have hkept : ¬fileUriStart <+: target.toList ++ cs →
      resolver.resolve (source ++ String.ofList cs) = .ok (target ++ String.ofList cs) :=
    resolve_source_append hresolver hsource
  refine ⟨hkept, ?_⟩
  by_cases h : fileUriStart <+: target.toList ++ cs
  · apply iff_of_false
    · exact resolve_source_append_ne hresolver hsource htarget hescapes.isEscapedText h
    · exact fun hboth => hboth.2 h
  · rw [hkept h, and_iff_left h, Except.ok.injEq, ← String.toList_inj, String.toList_append,
      String.toList_append, List.append_cancel_left_eq, String.toList_ofList]

-- A folder of an archive whose place is known, and a file in it.
def movedArchive : PathResolver where
  substitutions := [⟨"file:///archive", "/mnt"⟩]
  caseSensitive := true

theorem resolve_source_append_eq_iff_of_movedArchive :
    movedArchive.substitutions = [⟨"file:///archive", "/mnt"⟩] ∧
      fileUriStart <+: "file:///archive".toList ∧ ¬fileUriStart <+: "/mnt".toList ∧
      Uri.Escapes (Utf8.encode "/é".toList) "/%C3%a9".toList ∧
      movedArchive.resolve ("file:///archive" ++ String.ofList "/%C3%a9".toList) =
        .ok ("/mnt" ++ String.ofList "/%C3%a9".toList) ∧
      movedArchive.resolve ("file:///archive" ++ String.ofList "/%C3%a9".toList) ≠
        .ok ("/mnt" ++ "/é") := by
  have hresolver : movedArchive.substitutions = [⟨"file:///archive", "/mnt"⟩] := by rfl
  have hsource : fileUriStart <+: "file:///archive".toList := by decide
  have htarget : ¬fileUriStart <+: "/mnt".toList := by decide
  have hescapes : Uri.Escapes (Utf8.encode "/é".toList) "/%C3%a9".toList := by
    have hbytes : Utf8.encode "/é".toList = [0x2F, 0xC3, 0xA9] := by decide
    have hslash : Uri.isLiteral '/' = true := by decide
    rw [hbytes]
    refine .literal hslash (.escape ?_ ?_ (.escape ?_ ?_ .nil))
    all_goals decide
  obtain ⟨hkept, hiff⟩ := resolve_source_append_eq_iff hresolver hsource htarget hescapes
  refine ⟨hresolver, hsource, htarget, hescapes, hkept (by decide), ?_⟩
  rw [ne_eq, hiff]
  decide

-- The file name has a space in it, and the path three other characters.
theorem resolve_ne_decoded_of_movedArchive :
    movedArchive.resolve "file:///archive/a%20b" = .ok "/mnt/a%20b" ∧
      Uri.Escapes (Utf8.encode "/a b".toList) "/a%20b".toList ∧
      movedArchive.resolve "file:///archive/a%20b" ≠ .ok ("/mnt" ++ "/a b") := by
  have hresolve : movedArchive.resolve "file:///archive/a%20b" = .ok "/mnt/a%20b" := by rfl
  refine ⟨hresolve, ?_, by rw [hresolve]; decide⟩
  have hbytes : Utf8.encode "/a b".toList = [0x2F, 0x61, 0x20, 0x62] := by decide
  have hslash : Uri.isLiteral '/' = true := by decide
  have hfirst : Uri.isLiteral 'a' = true := by decide
  have hlast : Uri.isLiteral 'b' = true := by decide
  rw [hbytes]
  refine .literal hslash (.literal hfirst (.escape ?_ ?_ (.literal hlast .nil)))
  all_goals decide

end PathResolver

end TableSchema
