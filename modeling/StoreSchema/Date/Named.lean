/-! # Named date formats

The names that stand for a pattern. The strict ones want a year of four digits, the others take
two as well. Formats by week are not among them, as patterns have no letters for weeks.
-/

namespace StoreSchema.Date

def namedPatterns : List (String × String) :=
  [("date_optional_time", "[yy]yy-M-d['T'HH:m:s.999999999Z]"),
   ("strict_date_optional_time", "yyyy-MM-dd['T'HH:mm:ss.999999999Z]"),
   ("strict_date_optional_time_nanos", "yyyy-MM-dd['T'HH:mm:ss.999999999Z]"),
   ("basic_date", "yyyyMMdd"),
   ("basic_date_time", "yyyyMMdd'T'HHmmss.999999999Z"),
   ("basic_date_time_no_millis", "yyyyMMdd'T'HHmmssZ"),
   ("basic_ordinal_date", "yyyyDDD"),
   ("basic_ordinal_date_time", "yyyyDDD'T'HHmmss.999999999"),
   ("basic_ordinal_date_time_no_millis", "yyyyDDD'T'HHmmssZ"),
   ("basic_time", "HHmmss.999999999Z"),
   ("basic_time_no_millis", "HHmmssZ"),
   ("basic_t_time", "'T'HHmmss.999999999Z"),
   ("basic_t_time_no_millis", "'T'HHmmssZ"),
   ("date", "[yy]yy-M-d"),
   ("strict_date", "yyyy-MM-dd"),
   ("date_hour", "[yy]yy-M-d'T'HH"),
   ("strict_date_hour", "yyyy-MM-dd'T'HH"),
   ("date_hour_minute", "[yy]yy-M-d'T'HH:mm"),
   ("strict_date_hour_minute", "yyyy-MM-dd'T'HH:mm"),
   ("date_hour_minute_second", "[yy]yy-M-d'T'HH:m:s"),
   ("strict_date_hour_minute_second", "yyyy-MM-dd'T'HH:mm:ss"),
   ("date_hour_minute_second_fraction", "[yy]yy-M-d'T'HH:m:s.999999999"),
   ("strict_date_hour_minute_second_fraction", "yyyy-MM-dd'T'HH:mm:ss.999999999"),
   ("date_hour_minute_second_millis", "[yy]yy-M-d'T'HH:m:s.999999999"),
   ("strict_date_hour_minute_second_millis", "yyyy-MM-dd'T'HH:mm:ss.999999999"),
   ("date_time", "[yy]yy-M-d'T'HH:m:s.999999999Z"),
   ("strict_date_time", "yyyy-MM-dd'T'HH:mm:ss.999999999Z"),
   ("date_time_no_millis", "[yy]yy-M-d'T'HH:m:sZ"),
   ("strict_date_time_no_millis", "yyyy-MM-dd'T'HH:mm:ssZ"),
   ("hour", "HH"),
   ("strict_hour", "HH"),
   ("hour_minute", "HH:m"),
   ("strict_hour_minute", "HH:mm"),
   ("hour_minute_second", "HH:m:s"),
   ("strict_hour_minute_second", "HH:mm:ss"),
   ("hour_minute_second_fraction", "HH:m:s.999999999"),
   ("strict_hour_minute_second_fraction", "HH:mm:ss.999999999"),
   ("hour_minute_second_millis", "HH:m:s.999999999"),
   ("strict_hour_minute_second_millis", "HH:mm:ss.999999999"),
   ("ordinal_date", "[yy]yy-DDD"),
   ("strict_ordinal_date", "yyyy-DDD"),
   ("ordinal_date_time", "[yy]yy-DDD'T'HH:m:s.999999999Z"),
   ("strict_ordinal_date_time", "yyyy-DDD'T'HH:mm:ss.999999999Z"),
   ("ordinal_date_time_no_millis", "[yy]yy-DDD'T'HH:m:sZ"),
   ("strict_ordinal_date_time_no_millis", "yyyy-DDD'T'HH:mm:ssZ"),
   ("time", "HH:m:s.999999999Z"),
   ("strict_time", "HH:mm:ss.999999999Z"),
   ("time_no_millis", "HH:m:sZ"),
   ("strict_time_no_millis", "HH:mm:ssZ"),
   ("t_time", "'T'HH:m:s.999999999Z"),
   ("strict_t_time", "'T'HH:mm:ss.999999999Z"),
   ("t_time_no_millis", "'T'HH:m:sZ"),
   ("strict_t_time_no_millis", "'T'HH:mm:ssZ"),
   ("year", "[yy]yy"),
   ("strict_year", "yyyy"),
   ("year_month", "[yy]yy-M"),
   ("strict_year_month", "yyyy-MM"),
   ("year_month_day", "[yy]yy-M-d"),
   ("strict_year_month_day", "yyyy-MM-dd")]

def namedPattern? (name : String) : Option String :=
  namedPatterns.lookup name

/-- The pattern that a name or a pattern stands for. -/
def patternOf (name : String) : String :=
  (namedPattern? name).getD name

/-- The format of dates whose field declares none. -/
def defaultFormat : String := "strict_date_optional_time||epoch_millis"

end StoreSchema.Date
