import RefPages.Proofs.Json.Cut
import RefPages.Report.Format
import RefPages.Text.Utf8

namespace RefPages.Report

open Json (Delimits Field Reads delimits_list delimits_record delimits_string exhausts_count
  reads_count reads_string)

theorem delimits_entry (e : Entry) : Delimits entryReader e (entryValue e) := by
  have herrors : Delimits (.list .string) e.errors (.list (e.errors.map .string)) :=
    delimits_list fun error _ => ⟨reads_string error, (delimits_string error).exhausts⟩
  refine delimits_record (u := ⟨some e.signature, some e.errors⟩) ?_ ?_ rfl
  · refine .cons rfl rfl (Field.reads_ofReader (reads_string e.signature)) ?_
    refine .cons rfl rfl (Field.reads_ofReader herrors.whole) ?_
    exact .nil
  · refine .cons rfl (Field.exhausts_ofReader (delimits_string e.signature).exhausts) ?_
    refine .cons rfl (Field.exhausts_ofReader herrors.exhausts) ?_
    exact .nil

theorem delimits_value {r : Report} (hp : r.pages < UInt64.size)
    (hf : r.failedPages < UInt64.size) : Delimits reader r r.value := by
  have hentries : Delimits (.list entryReader) r.entries (.list (r.entries.map entryValue)) :=
    delimits_list fun e _ => ⟨(delimits_entry e).whole, (delimits_entry e).exhausts⟩
  refine delimits_record (u := ⟨some r.source, some r.generatedAt, some r.pages,
    some r.failedPages, some r.entries⟩) ?_ ?_ rfl
  · refine .cons rfl rfl (Field.reads_ofReader (reads_string r.source)) ?_
    refine .cons rfl rfl (Field.reads_ofReader (reads_string r.generatedAt)) ?_
    refine .cons rfl rfl (Field.reads_ofReader (reads_count hp)) ?_
    refine .cons rfl rfl (Field.reads_ofReader (reads_count hf)) ?_
    refine .cons rfl rfl (Field.reads_ofReader hentries.whole) ?_
    exact .nil
  · refine .cons rfl (Field.exhausts_ofReader (delimits_string r.source).exhausts) ?_
    refine .cons rfl (Field.exhausts_ofReader (delimits_string r.generatedAt).exhausts) ?_
    refine .cons rfl (Field.exhausts_ofReader (exhausts_count hp)) ?_
    refine .cons rfl (Field.exhausts_ofReader (exhausts_count hf)) ?_
    refine .cons rfl (Field.exhausts_ofReader hentries.exhausts) ?_
    exact .nil

theorem reads_value {r : Report} (hp : r.pages < UInt64.size) (hf : r.failedPages < UInt64.size) :
    Reads reader r r.value :=
  (delimits_value hp hf).whole

theorem write_json (r : Report) : r.write .json = r.value.layout 0 ++ ['\n'] := by
  rw [write, pieces, List.flatten_append, List.flatten_singleton, Json.Value.layout]

theorem read_write_json {r : Report} (hp : r.pages < UInt64.size) (hf : r.failedPages < UInt64.size) :
    read (r.write .json) = .ok r ∧
      (read (r.write .json)).map (fun s => Text.Utf8.encode (s.write .json)) =
        .ok (Text.Utf8.encode (r.write .json)) := by
  have hbehind : Json.IsBehind ['\n'] := by
    intro c t h
    exact .inr (List.cons.inj h).1.symm
  have hread : read (r.write .json) = .ok r := by
    rw [write_json, read, Json.Reader.readAll, (reads_value hp hf).layout 0 hbehind]
    rfl
  exact ⟨hread, by rw [hread]; rfl⟩

theorem read_write_json_escaped :
    let r : Report := ⟨"\"\\/\t\x01".toList, "😀\x7f".toList, UInt64.size - 1, 0,
      [⟨"é".toList, []⟩, ⟨[], [['\x1f'], [], "\r\n".toList]⟩]⟩
    r.pages < UInt64.size ∧ r.failedPages < UInt64.size ∧ read (r.write .json) = .ok r := by
  intro r
  have hp : r.pages < UInt64.size := by decide
  have hf : r.failedPages < UInt64.size := by decide
  exact ⟨hp, hf, (read_write_json hp hf).1⟩

theorem read_layout {r : Report} (hp : r.pages < UInt64.size) (hf : r.failedPages < UInt64.size)
    {rest : Text} (hb : Json.IsBehind rest) (hs : Json.IsSpace rest) :
    read (r.value.layout 0 ++ rest) = .ok r := by
  rw [read, Json.Reader.readAll, (reads_value hp hf).layout 0 hb]
  dsimp only
  rw [Json.skipSpace_eq_nil hs]
  rfl

theorem exists_layout_concat (r : Report) : ∃ body, r.value.layout 0 = body ++ ['\x7d'] := by
  rw [value, Json.Value.layout_record_cons]
  simp only [← List.cons_append, ← List.append_assoc]
  exact ⟨_, rfl⟩

/-- Only the newline at the end of what is written can be missing. Where the closing brace is
missing too, the text ends too early. -/
theorem read_cut_json {r : Report} (hp : r.pages < UInt64.size) (hf : r.failedPages < UInt64.size)
    {t missing : Text} (h : t ++ missing = r.write .json) :
    (missing = [] ∨ missing = ['\n']) ∧ read t = .ok r ∨
      ['\x7d', '\n'] <:+ missing ∧ read t = .error .cutShort := by
  rw [write_json] at h
  have hcut : t <+: r.value.layout 0 ++ ['\n'] := ⟨missing, h⟩
  obtain ⟨body, hbody⟩ := exists_layout_concat r
  rcases List.prefix_concat_iff.mp hcut with rfl | ht
  · have hm : missing = [] := List.append_right_eq_self.mp h
    exact .inl ⟨.inl hm, read_layout hp hf (Json.isBehind_newLine 0 []) (Json.isSpace_newLine 0)⟩
  · by_cases hne : t = r.value.layout 0
    · rw [hne] at h ⊢
      have hm : missing = ['\n'] := List.append_cancel_left h
      have hread := read_layout hp hf Json.isBehind_nil (by simp [Json.IsSpace])
      rw [List.append_nil] at hread
      exact .inl ⟨.inr hm, hread⟩
    · have hread := (delimits_value hp hf).cut [] 0 t (by simp [Json.IsSpace]) ht hne
      rw [hbody] at ht hne h
      obtain ⟨m, rfl⟩ := Json.cut_concat ht hne
      simp only [List.append_assoc] at h
      have hm : missing = m ++ ['\x7d', '\n'] := List.append_cancel_left h
      refine .inr ⟨⟨m, hm.symm⟩, ?_⟩
      rw [read, Json.Reader.readAll, hread]

theorem read_cut_json_escape :
    let r : Report := ⟨"\"".toList, [], 0, 10, [⟨"é".toList, [[]]⟩]⟩
    let t := "\x7b\n  \"source\": \"\\".toList
    let missing := (r.write .json).drop t.length
    r.pages < UInt64.size ∧ r.failedPages < UInt64.size ∧ t ++ missing = r.write .json ∧
      ['\x7d', '\n'] <:+ missing ∧ read t = .error .cutShort := by
  intro r t missing
  have hp : r.pages < UInt64.size := by decide
  have hf : r.failedPages < UInt64.size := by decide
  have h : t ++ missing = r.write .json := by decide +kernel
  have hm : ¬(missing = [] ∨ missing = ['\n']) := by decide +kernel
  refine ⟨hp, hf, h, ?_⟩
  exact (read_cut_json hp hf h).resolve_left fun hcomplete => hm hcomplete.1

end RefPages.Report
