/-! Points in time: milliseconds since the beginning of 1970, in 64 bits. -/
namespace SeriesQuery.Instant

def least : Int := -9223372036854775808

def greatest : Int := 9223372036854775807

end SeriesQuery.Instant
