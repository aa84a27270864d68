import RefPages.Page.Strategy
import RefPages.Proofs.Page.Written.Raw
import RefPages.Proofs.Page.Written.Tree

namespace RefPages.Page

theorem extract_written {ss es : List Text} (hs : ∀ s ∈ ss, IsBare s) (he : ∀ e ∈ es, IsBare e)
    (hmarker : ∀ e ∈ es, ¬"funcsynopsis".toList <:+: e) (strategy : Strategy) :
    extract strategy (written ss es) = .ok (writtenExtract ss es) := by
  cases strategy with
  | tree => exact congrArg Except.ok (readTree_written hs he)
  | raw => exact scan_written hs he hmarker

theorem extract_written_lines :
    extract .raw (written ["f(\r\n  int n )".toList] ["\nNo\rroom.".toList, " ".toList]) =
      .ok ⟨["f( int n );".toList], ["No room.".toList]⟩ ∧
    extract .tree (written ["f(\r\n  int n )".toList] ["\nNo\rroom.".toList, " ".toList]) =
      .ok ⟨["f( int n );".toList], ["No room.".toList]⟩ := by
  have hs : ∀ s ∈ ["f(\r\n  int n )".toList], IsBare s := by
    decide
  have he : ∀ e ∈ ["\nNo\rroom.".toList, " ".toList], IsBare e := by
    decide
  have hmarker : ∀ e ∈ ["\nNo\rroom.".toList, " ".toList], ¬"funcsynopsis".toList <:+: e := by
    rw [List.forall_mem_cons, List.forall_mem_singleton]
    exact ⟨not_infix_of_splitAt? rfl, not_infix_of_splitAt? rfl⟩
  have hfound : writtenExtract ["f(\r\n  int n )".toList] ["\nNo\rroom.".toList, " ".toList] =
      ⟨["f( int n );".toList], ["No room.".toList]⟩ := by
    decide +kernel
  rw [← hfound]
  exact ⟨extract_written hs he hmarker .raw, extract_written hs he hmarker .tree⟩

end RefPages.Page
