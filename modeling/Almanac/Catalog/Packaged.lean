import Almanac.Catalog.Basic

/-!
# The packaged dataset

The dataset that ships with the library: four Caribbean countries and their historical and
cultural events, as the JSON document it is written in. `Catalog.packaged` is that document
loaded like any other dataset.
-/

namespace Almanac

/-- The packaged dataset, as a JSON document. -/
def packagedDataset : Value :=
  .record [
    ("countries", .list [
      .record [
        ("code", .str "BS"),
        ("name", .str "The Bahamas")],
      .record [
        ("code", .str "BB"),
        ("name", .str "Barbados")],
      .record [
        ("code", .str "JM"),
        ("name", .str "Jamaica")],
      .record [
        ("code", .str "TT"),
        ("name", .str "Trinidad and Tobago")]]),
    ("events", .list [
      .record [
        ("id", .str "bs-majority-rule"),
        ("country_code", .str "BS"),
        ("title", .str "Majority Rule Day"),
        ("category", .str "historical"),
        ("tags", .list [.str "public-holiday", .str "politics"]),
        ("description", .str "Marks 10 January 1967, when the Progressive Liberal Party formed the first majority-rule government of The Bahamas."),
        ("location", .str "Nationwide"),
        ("fixed_date", .str "01-10"),
        ("rrule", .null),
        ("relative_to", .null),
        ("offset_days", .int 0),
        ("sources", .list [.str "Public Holidays Act (The Bahamas)"])],
      .record [
        ("id", .str "bs-good-friday"),
        ("country_code", .str "BS"),
        ("title", .str "Good Friday"),
        ("category", .str "cultural"),
        ("tags", .list [.str "public-holiday", .str "religious", .str "easter"]),
        ("description", .str "Christian observance of the Crucifixion, two days before Easter Sunday."),
        ("location", .str "Nationwide"),
        ("fixed_date", .null),
        ("rrule", .null),
        ("relative_to", .str "easter-sunday"),
        ("offset_days", .int (-2)),
        ("sources", .list [.str "Public Holidays Act (The Bahamas)"])],
      .record [
        ("id", .str "bs-easter-monday"),
        ("country_code", .str "BS"),
        ("title", .str "Easter Monday"),
        ("category", .str "cultural"),
        ("tags", .list [.str "public-holiday", .str "religious", .str "easter"]),
        ("description", .str "The day after Easter Sunday."),
        ("location", .str "Nationwide"),
        ("fixed_date", .null),
        ("rrule", .null),
        ("relative_to", .str "easter-sunday"),
        ("offset_days", .int 1),
        ("sources", .list [.str "Public Holidays Act (The Bahamas)"])],
      .record [
        ("id", .str "bs-whit-monday"),
        ("country_code", .str "BS"),
        ("title", .str "Whit Monday"),
        ("category", .str "cultural"),
        ("tags", .list [.str "public-holiday", .str "religious"]),
        ("description", .str "The day after Pentecost, fifty days after Easter Sunday."),
        ("location", .str "Nationwide"),
        ("fixed_date", .null),
        ("rrule", .null),
        ("relative_to", .str "easter-sunday"),
        ("offset_days", .int 50),
        ("sources", .list [.str "Public Holidays Act (The Bahamas)"])],
      .record [
        ("id", .str "bs-labour-day"),
        ("country_code", .str "BS"),
        ("title", .str "Randol Fawkes Labour Day"),
        ("category", .str "historical"),
        ("tags", .list [.str "public-holiday", .str "labour"]),
        ("description", .str "Honours Sir Randol Fawkes and the labour movement; held on the first Friday in June."),
        ("location", .str "Nassau"),
        ("fixed_date", .null),
        ("rrule", .str "FREQ=YEARLY;BYMONTH=6;BYDAY=1FR"),
        ("relative_to", .null),
        ("offset_days", .int 0),
        ("sources", .list [.str "Public Holidays Act (The Bahamas)"])],
      .record [
        ("id", .str "bs-independence"),
        ("country_code", .str "BS"),
        ("title", .str "Independence Day"),
        ("category", .str "historical"),
        ("tags", .list [.str "public-holiday", .str "independence"]),
        ("description", .str "The Bahamas became an independent Commonwealth realm on 10 July 1973."),
        ("location", .str "Clifford Park, Nassau"),
        ("fixed_date", .str "07-10"),
        ("rrule", .null),
        ("relative_to", .null),
        ("offset_days", .int 0),
        ("sources", .list [.str "Bahamas Independence Act 1973"])],
      .record [
        ("id", .str "bs-emancipation"),
        ("country_code", .str "BS"),
        ("title", .str "Emancipation Day"),
        ("category", .str "historical"),
        ("tags", .list [.str "public-holiday", .str "emancipation"]),
        ("description", .str "Commemorates the abolition of slavery in the British colonies in 1834; held on the first Monday in August."),
        ("location", .str "Fox Hill, Nassau"),
        ("fixed_date", .null),
        ("rrule", .str "FREQ=YEARLY;BYMONTH=8;BYDAY=1MO"),
        ("relative_to", .null),
        ("offset_days", .int 0),
        ("sources", .list [.str "Slavery Abolition Act 1833"])],
      .record [
        ("id", .str "bs-fox-hill-day"),
        ("country_code", .str "BS"),
        ("title", .str "Fox Hill Day"),
        ("category", .str "cultural"),
        ("tags", .list [.str "emancipation", .str "festival"]),
        ("description", .str "Fox Hill celebrates emancipation on the Tuesday after Emancipation Day, recalling that the news reached the village a week late."),
        ("location", .str "Fox Hill, Nassau"),
        ("fixed_date", .null),
        ("rrule", .null),
        ("relative_to", .str "bs-fox-hill-week"),
        ("offset_days", .int 1),
        ("sources", .list [.str "Fox Hill Festival Committee"])],
      .record [
        ("id", .str "bs-fox-hill-week"),
        ("country_code", .str "BS"),
        ("title", .str "Fox Hill Festival Week"),
        ("category", .str "cultural"),
        ("tags", .list [.str "emancipation", .str "festival"]),
        ("description", .str "Festival week opening one week after Emancipation Day."),
        ("location", .str "Fox Hill, Nassau"),
        ("fixed_date", .null),
        ("rrule", .null),
        ("relative_to", .str "bs-emancipation"),
        ("offset_days", .int 7),
        ("sources", .list [.str "Fox Hill Festival Committee"])],
      .record [
        ("id", .str "bs-heroes-day"),
        ("country_code", .str "BS"),
        ("title", .str "National Heroes Day"),
        ("category", .str "historical"),
        ("tags", .list [.str "public-holiday", .str "heroes"]),
        ("description", .str "Honours national heroes; held on the second Monday in October."),
        ("location", .str "Nationwide"),
        ("fixed_date", .null),
        ("rrule", .str "FREQ=YEARLY;BYMONTH=10;BYDAY=2MO"),
        ("relative_to", .null),
        ("offset_days", .int 0),
        ("sources", .list [.str "Public Holidays Act (The Bahamas)"])],
      .record [
        ("id", .str "bs-junkanoo-boxing-day"),
        ("country_code", .str "BS"),
        ("title", .str "Boxing Day Junkanoo"),
        ("category", .str "cultural"),
        ("tags", .list [.str "public-holiday", .str "junkanoo", .str "festival"]),
        ("description", .str "The first of the two great Junkanoo street parades on Bay Street."),
        ("location", .str "Bay Street, Nassau"),
        ("fixed_date", .str "12-26"),
        ("rrule", .null),
        ("relative_to", .null),
        ("offset_days", .int 0),
        ("sources", .list [.str "Junkanoo Corporation of New Providence"])],
      .record [
        ("id", .str "bs-junkanoo-new-year"),
        ("country_code", .str "BS"),
        ("title", .str "New Year's Day Junkanoo"),
        ("category", .str "cultural"),
        ("tags", .list [.str "public-holiday", .str "junkanoo", .str "festival"]),
        ("description", .str "The New Year's Day Junkanoo parade."),
        ("location", .str "Bay Street, Nassau"),
        ("fixed_date", .str "01-01"),
        ("rrule", .null),
        ("relative_to", .null),
        ("offset_days", .int 0),
        ("sources", .list [.str "Junkanoo Corporation of New Providence"])],
      .record [
        ("id", .str "bb-errol-barrow-day"),
        ("country_code", .str "BB"),
        ("title", .str "Errol Barrow Day"),
        ("category", .str "historical"),
        ("tags", .list [.str "public-holiday", .str "heroes"]),
        ("description", .str "Birthday of Errol Walton Barrow, the first Prime Minister of Barbados."),
        ("location", .str "Nationwide"),
        ("fixed_date", .str "01-21"),
        ("rrule", .null),
        ("relative_to", .null),
        ("offset_days", .int 0),
        ("sources", .list [.str "Public Holidays Act (Barbados)"])],
      .record [
        ("id", .str "bb-good-friday"),
        ("country_code", .str "BB"),
        ("title", .str "Good Friday"),
        ("category", .str "cultural"),
        ("tags", .list [.str "public-holiday", .str "religious", .str "easter"]),
        ("description", .str "Christian observance of the Crucifixion."),
        ("location", .str "Nationwide"),
        ("fixed_date", .null),
        ("rrule", .null),
        ("relative_to", .str "easter_sunday"),
        ("offset_days", .int (-2)),
        ("sources", .list [.str "Public Holidays Act (Barbados)"])],
      .record [
        ("id", .str "bb-heroes-day"),
        ("country_code", .str "BB"),
        ("title", .str "National Heroes Day"),
        ("category", .str "historical"),
        ("tags", .list [.str "public-holiday", .str "heroes"]),
        ("description", .str "Honours the ten National Heroes of Barbados."),
        ("location", .str "Nationwide"),
        ("fixed_date", .str "04-28"),
        ("rrule", .null),
        ("relative_to", .null),
        ("offset_days", .int 0),
        ("sources", .list [.str "Public Holidays Act (Barbados)"])],
      .record [
        ("id", .str "bb-emancipation"),
        ("country_code", .str "BB"),
        ("title", .str "Emancipation Day"),
        ("category", .str "historical"),
        ("tags", .list [.str "public-holiday", .str "emancipation"]),
        ("description", .str "Commemorates the abolition of slavery on 1 August 1834."),
        ("location", .str "Nationwide"),
        ("fixed_date", .str "08-01"),
        ("rrule", .null),
        ("relative_to", .null),
        ("offset_days", .int 0),
        ("sources", .list [.str "Slavery Abolition Act 1833"])],
      .record [
        ("id", .str "bb-kadooment"),
        ("country_code", .str "BB"),
        ("title", .str "Grand Kadooment Day"),
        ("category", .str "cultural"),
        ("tags", .list [.str "public-holiday", .str "crop-over", .str "festival"]),
        ("description", .str "The closing parade of the Crop Over festival, held on the first Monday in August."),
        ("location", .str "Bridgetown"),
        ("fixed_date", .null),
        ("rrule", .str "FREQ=YEARLY;BYMONTH=8;BYDAY=1MO"),
        ("relative_to", .null),
        ("offset_days", .int 0),
        ("sources", .list [.str "National Cultural Foundation (Barbados)"])],
      .record [
        ("id", .str "bb-foreday-morning"),
        ("country_code", .str "BB"),
        ("title", .str "Foreday Morning Jam"),
        ("category", .str "cultural"),
        ("tags", .list [.str "crop-over", .str "festival"]),
        ("description", .str "Pre-dawn Crop Over street jam on the Saturday before Kadooment."),
        ("location", .str "St. Michael"),
        ("fixed_date", .null),
        ("rrule", .null),
        ("relative_to", .str "bb-kadooment"),
        ("offset_days", .int (-2)),
        ("sources", .list [.str "National Cultural Foundation (Barbados)"])],
      .record [
        ("id", .str "bb-independence"),
        ("country_code", .str "BB"),
        ("title", .str "Independence Day"),
        ("category", .str "historical"),
        ("tags", .list [.str "public-holiday", .str "independence"]),
        ("description", .str "Barbados became independent on 30 November 1966."),
        ("location", .str "Garrison Savannah, Bridgetown"),
        ("fixed_date", .str "11-30"),
        ("rrule", .null),
        ("relative_to", .null),
        ("offset_days", .int 0),
        ("sources", .list [.str "Barbados Independence Act 1966"])],
      .record [
        ("id", .str "jm-ash-wednesday"),
        ("country_code", .str "JM"),
        ("title", .str "Ash Wednesday"),
        ("category", .str "cultural"),
        ("tags", .list [.str "public-holiday", .str "religious", .str "lent"]),
        ("description", .str "First day of Lent; a public holiday in Jamaica."),
        ("location", .str "Nationwide"),
        ("fixed_date", .null),
        ("rrule", .null),
        ("relative_to", .str "ash-wednesday"),
        ("offset_days", .int 0),
        ("sources", .list [.str "Holidays (Public General) Act (Jamaica)"])],
      .record [
        ("id", .str "jm-labour-day"),
        ("country_code", .str "JM"),
        ("title", .str "Labour Day"),
        ("category", .str "historical"),
        ("tags", .list [.str "public-holiday", .str "labour"]),
        ("description", .str "Commemorates the 1938 labour rebellion; a national day of community work."),
        ("location", .str "Nationwide"),
        ("fixed_date", .str "05-23"),
        ("rrule", .null),
        ("relative_to", .null),
        ("offset_days", .int 0),
        ("sources", .list [.str "Holidays (Public General) Act (Jamaica)"])],
      .record [
        ("id", .str "jm-emancipation"),
        ("country_code", .str "JM"),
        ("title", .str "Emancipation Day"),
        ("category", .str "historical"),
        ("tags", .list [.str "public-holiday", .str "emancipation"]),
        ("description", .str "Commemorates full freedom from slavery on 1 August 1838."),
        ("location", .str "Spanish Town"),
        ("fixed_date", .str "08-01"),
        ("rrule", .null),
        ("relative_to", .null),
        ("offset_days", .int 0),
        ("sources", .list [.str "Holidays (Public General) Act (Jamaica)"])],
      .record [
        ("id", .str "jm-independence"),
        ("country_code", .str "JM"),
        ("title", .str "Independence Day"),
        ("category", .str "historical"),
        ("tags", .list [.str "public-holiday", .str "independence"]),
        ("description", .str "Jamaica became independent on 6 August 1962."),
        ("location", .str "National Stadium, Kingston"),
        ("fixed_date", .str "08-06"),
        ("rrule", .null),
        ("relative_to", .null),
        ("offset_days", .int 0),
        ("sources", .list [.str "Jamaica Independence Act 1962"])],
      .record [
        ("id", .str "jm-heroes-day"),
        ("country_code", .str "JM"),
        ("title", .str "National Heroes Day"),
        ("category", .str "historical"),
        ("tags", .list [.str "public-holiday", .str "heroes"]),
        ("description", .str "Honours Jamaica's seven National Heroes; held on the third Monday in October."),
        ("location", .str "National Heroes Park, Kingston"),
        ("fixed_date", .null),
        ("rrule", .str "FREQ=YEARLY;BYMONTH=10;BYDAY=3MO"),
        ("relative_to", .null),
        ("offset_days", .int 0),
        ("sources", .list [.str "Holidays (Public General) Act (Jamaica)"])],
      .record [
        ("id", .str "tt-carnival-tuesday"),
        ("country_code", .str "TT"),
        ("title", .str "Carnival Tuesday"),
        ("category", .str "cultural"),
        ("tags", .list [.str "carnival", .str "festival"]),
        ("description", .str "Parade of the Bands; the final day of Carnival, the day before Ash Wednesday."),
        ("location", .str "Port of Spain"),
        ("fixed_date", .null),
        ("rrule", .null),
        ("relative_to", .str "tt-carnival-monday"),
        ("offset_days", .int 1),
        ("sources", .list [.str "National Carnival Commission of Trinidad and Tobago"])],
      .record [
        ("id", .str "tt-carnival-monday"),
        ("country_code", .str "TT"),
        ("title", .str "Carnival Monday (J'ouvert)"),
        ("category", .str "cultural"),
        ("tags", .list [.str "carnival", .str "festival", .str "jouvert"]),
        ("description", .str "Carnival opens before dawn with J'ouvert, two days before Ash Wednesday."),
        ("location", .str "Port of Spain"),
        ("fixed_date", .null),
        ("rrule", .null),
        ("relative_to", .str "ash_wednesday"),
        ("offset_days", .int (-2)),
        ("sources", .list [.str "National Carnival Commission of Trinidad and Tobago"])],
      .record [
        ("id", .str "tt-dimanche-gras"),
        ("country_code", .str "TT"),
        ("title", .str "Dimanche Gras"),
        ("category", .str "cultural"),
        ("tags", .list [.str "carnival", .str "festival", .str "calypso"]),
        ("description", .str "Sunday-night show crowning the Calypso Monarch and the King and Queen of Carnival."),
        ("location", .str "Queen's Park Savannah, Port of Spain"),
        ("fixed_date", .null),
        ("rrule", .null),
        ("relative_to", .str "tt-carnival-monday"),
        ("offset_days", .int (-1)),
        ("sources", .list [.str "National Carnival Commission of Trinidad and Tobago"])],
      .record [
        ("id", .str "tt-spiritual-baptist"),
        ("country_code", .str "TT"),
        ("title", .str "Spiritual Baptist/Shouter Liberation Day"),
        ("category", .str "historical"),
        ("tags", .list [.str "public-holiday", .str "religious"]),
        ("description", .str "Marks the 1951 repeal of the Shouters Prohibition Ordinance."),
        ("location", .str "Nationwide"),
        ("fixed_date", .str "03-30"),
        ("rrule", .null),
        ("relative_to", .null),
        ("offset_days", .int 0),
        ("sources", .list [.str "Public Holidays and Festivals Act (Trinidad and Tobago)"])],
      .record [
        ("id", .str "tt-indian-arrival"),
        ("country_code", .str "TT"),
        ("title", .str "Indian Arrival Day"),
        ("category", .str "historical"),
        ("tags", .list [.str "public-holiday", .str "heritage"]),
        ("description", .str "Commemorates the arrival of the Fatel Razack with the first indentured labourers from India on 30 May 1845."),
        ("location", .str "Nationwide"),
        ("fixed_date", .str "05-30"),
        ("rrule", .null),
        ("relative_to", .null),
        ("offset_days", .int 0),
        ("sources", .list [.str "Public Holidays and Festivals Act (Trinidad and Tobago)"])],
      .record [
        ("id", .str "tt-corpus-christi"),
        ("country_code", .str "TT"),
        ("title", .str "Corpus Christi"),
        ("category", .str "cultural"),
        ("tags", .list [.str "public-holiday", .str "religious"]),
        ("description", .str "Feast of the Body of Christ, sixty days after Easter Sunday."),
        ("location", .str "Nationwide"),
        ("fixed_date", .null),
        ("rrule", .null),
        ("relative_to", .str "easter-sunday"),
        ("offset_days", .int 60),
        ("sources", .list [.str "Public Holidays and Festivals Act (Trinidad and Tobago)"])],
      .record [
        ("id", .str "tt-labour-day"),
        ("country_code", .str "TT"),
        ("title", .str "Labour Day"),
        ("category", .str "historical"),
        ("tags", .list [.str "public-holiday", .str "labour"]),
        ("description", .str "Commemorates the 1937 Butler oilfield riots."),
        ("location", .str "Fyzabad"),
        ("fixed_date", .str "06-19"),
        ("rrule", .null),
        ("relative_to", .null),
        ("offset_days", .int 0),
        ("sources", .list [.str "Public Holidays and Festivals Act (Trinidad and Tobago)"])],
      .record [
        ("id", .str "tt-emancipation"),
        ("country_code", .str "TT"),
        ("title", .str "Emancipation Day"),
        ("category", .str "historical"),
        ("tags", .list [.str "public-holiday", .str "emancipation"]),
        ("description", .str "Trinidad and Tobago became the first country to declare a national holiday for the abolition of slavery, in 1985."),
        ("location", .str "Lidj Yasu Omowale Emancipation Village, Port of Spain"),
        ("fixed_date", .str "08-01"),
        ("rrule", .null),
        ("relative_to", .null),
        ("offset_days", .int 0),
        ("sources", .list [.str "Public Holidays and Festivals Act (Trinidad and Tobago)"])],
      .record [
        ("id", .str "tt-independence"),
        ("country_code", .str "TT"),
        ("title", .str "Independence Day"),
        ("category", .str "historical"),
        ("tags", .list [.str "public-holiday", .str "independence"]),
        ("description", .str "Trinidad and Tobago became independent on 31 August 1962."),
        ("location", .str "Queen's Park Savannah, Port of Spain"),
        ("fixed_date", .str "08-31"),
        ("rrule", .null),
        ("relative_to", .null),
        ("offset_days", .int 0),
        ("sources", .list [.str "Trinidad and Tobago Independence Act 1962"])],
      .record [
        ("id", .str "tt-republic-day"),
        ("country_code", .str "TT"),
        ("title", .str "Republic Day"),
        ("category", .str "historical"),
        ("tags", .list [.str "public-holiday", .str "politics"]),
        ("description", .str "Trinidad and Tobago became a republic on 24 September 1976."),
        ("location", .str "Nationwide"),
        ("fixed_date", .str "09-24"),
        ("rrule", .null),
        ("relative_to", .null),
        ("offset_days", .int 0),
        ("sources", .list [.str "Constitution of the Republic of Trinidad and Tobago Act 1976"])]])]

/-- The catalog of the packaged dataset. -/
def Catalog.packaged : Except Fault Catalog := Catalog.load packagedDataset

end Almanac
