/-! Whole numbers of sixty-four bits. -/
namespace IndicatorDesigner

/-- Whether a whole number fits in sixty-four bits with a sign. -/
def fitsWord (n : Int) : Bool := -9223372036854775808 ≤ n && n ≤ 9223372036854775807

end IndicatorDesigner
