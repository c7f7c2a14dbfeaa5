/-!
# Names of pictures from M on

Names of pictures that begin with the letter M.

* `namesFromM` – the names, each with the code points of its picture.
-/

namespace StackManifest.Console.Emoji

/-- **Names** of pictures: several in a line, each with the code points of its picture. -/
def namesFromM : List String :=
  [
    "m=24C2 macau_sar_china=1F1F2.1F1F4 macedonia=1F1F2.1F1F0 madagascar=1F1F2.1F1EC mag=1F50D",
    "mag_right=1F50E mage=1F9D9 mage_dark_skin_tone=1F9D9.1F3FF mage_light_skin_tone=1F9D9.1F3FB",
    "mage_medium-dark_skin_tone=1F9D9.1F3FE mage_medium-light_skin_tone=1F9D9.1F3FC",
    "mage_medium_skin_tone=1F9D9.1F3FD magnet=1F9F2 magnifying_glass_tilted_left=1F50D",
    "magnifying_glass_tilted_right=1F50E mahjong=1F004 mahjong_red_dragon=1F004 mailbox=1F4EB",
    "mailbox_closed=1F4EA mailbox_with_mail=1F4EC mailbox_with_no_mail=1F4ED malawi=1F1F2.1F1FC",
    "malaysia=1F1F2.1F1FE maldives=1F1F2.1F1FB male_sign=2642 mali=1F1F2.1F1F1 malta=1F1F2.1F1F9",
    "man=1F468 man_and_woman_holding_hands=1F46B man_artist=1F468.200D.1F3A8",
    "man_artist_dark_skin_tone=1F468.1F3FF.200D.1F3A8",
    "man_artist_light_skin_tone=1F468.1F3FB.200D.1F3A8",
    "man_artist_medium-dark_skin_tone=1F468.1F3FE.200D.1F3A8",
    "man_artist_medium-light_skin_tone=1F468.1F3FC.200D.1F3A8",
    "man_artist_medium_skin_tone=1F468.1F3FD.200D.1F3A8 man_astronaut=1F468.200D.1F680",
    "man_astronaut_dark_skin_tone=1F468.1F3FF.200D.1F680",
    "man_astronaut_light_skin_tone=1F468.1F3FB.200D.1F680",
    "man_astronaut_medium-dark_skin_tone=1F468.1F3FE.200D.1F680",
    "man_astronaut_medium-light_skin_tone=1F468.1F3FC.200D.1F680",
    "man_astronaut_medium_skin_tone=1F468.1F3FD.200D.1F680 man_biking=1F6B4.200D.2642.FE0F",
    "man_biking_dark_skin_tone=1F6B4.1F3FF.200D.2642.FE0F",
    "man_biking_light_skin_tone=1F6B4.1F3FB.200D.2642.FE0F",
    "man_biking_medium-dark_skin_tone=1F6B4.1F3FE.200D.2642.FE0F",
    "man_biking_medium-light_skin_tone=1F6B4.1F3FC.200D.2642.FE0F",
    "man_biking_medium_skin_tone=1F6B4.1F3FD.200D.2642.FE0F",
    "man_bouncing_ball=26F9.FE0F.200D.2642.FE0F",
    "man_bouncing_ball_dark_skin_tone=26F9.1F3FF.200D.2642.FE0F",
    "man_bouncing_ball_light_skin_tone=26F9.1F3FB.200D.2642.FE0F",
    "man_bouncing_ball_medium-dark_skin_tone=26F9.1F3FE.200D.2642.FE0F",
    "man_bouncing_ball_medium-light_skin_tone=26F9.1F3FC.200D.2642.FE0F",
    "man_bouncing_ball_medium_skin_tone=26F9.1F3FD.200D.2642.FE0F man_bowing=1F647.200D.2642.FE0F",
    "man_bowing_dark_skin_tone=1F647.1F3FF.200D.2642.FE0F",
    "man_bowing_light_skin_tone=1F647.1F3FB.200D.2642.FE0F",
    "man_bowing_medium-dark_skin_tone=1F647.1F3FE.200D.2642.FE0F",
    "man_bowing_medium-light_skin_tone=1F647.1F3FC.200D.2642.FE0F",
    "man_bowing_medium_skin_tone=1F647.1F3FD.200D.2642.FE0F man_cartwheeling=1F938.200D.2642.FE0F",
    "man_cartwheeling_dark_skin_tone=1F938.1F3FF.200D.2642.FE0F",
    "man_cartwheeling_light_skin_tone=1F938.1F3FB.200D.2642.FE0F",
    "man_cartwheeling_medium-dark_skin_tone=1F938.1F3FE.200D.2642.FE0F",
    "man_cartwheeling_medium-light_skin_tone=1F938.1F3FC.200D.2642.FE0F",
    "man_cartwheeling_medium_skin_tone=1F938.1F3FD.200D.2642.FE0F",
    "man_climbing=1F9D7.200D.2642.FE0F man_climbing_dark_skin_tone=1F9D7.1F3FF.200D.2642.FE0F",
    "man_climbing_light_skin_tone=1F9D7.1F3FB.200D.2642.FE0F",
    "man_climbing_medium-dark_skin_tone=1F9D7.1F3FE.200D.2642.FE0F",
    "man_climbing_medium-light_skin_tone=1F9D7.1F3FC.200D.2642.FE0F",
    "man_climbing_medium_skin_tone=1F9D7.1F3FD.200D.2642.FE0F",
    "man_construction_worker=1F477.200D.2642.FE0F",
    "man_construction_worker_dark_skin_tone=1F477.1F3FF.200D.2642.FE0F",
    "man_construction_worker_light_skin_tone=1F477.1F3FB.200D.2642.FE0F",
    "man_construction_worker_medium-dark_skin_tone=1F477.1F3FE.200D.2642.FE0F",
    "man_construction_worker_medium-light_skin_tone=1F477.1F3FC.200D.2642.FE0F",
    "man_construction_worker_medium_skin_tone=1F477.1F3FD.200D.2642.FE0F",
    "man_cook=1F468.200D.1F373 man_cook_dark_skin_tone=1F468.1F3FF.200D.1F373",
    "man_cook_light_skin_tone=1F468.1F3FB.200D.1F373",
    "man_cook_medium-dark_skin_tone=1F468.1F3FE.200D.1F373",
    "man_cook_medium-light_skin_tone=1F468.1F3FC.200D.1F373",
    "man_cook_medium_skin_tone=1F468.1F3FD.200D.1F373 man_dancing=1F57A",
    "man_dancing_dark_skin_tone=1F57A.1F3FF man_dancing_light_skin_tone=1F57A.1F3FB",
    "man_dancing_medium-dark_skin_tone=1F57A.1F3FE man_dancing_medium-light_skin_tone=1F57A.1F3FC",
    "man_dancing_medium_skin_tone=1F57A.1F3FD man_dark_skin_tone=1F468.1F3FF",
    "man_detective=1F575.FE0F.200D.2642.FE0F",
    "man_detective_dark_skin_tone=1F575.1F3FF.200D.2642.FE0F",
    "man_detective_light_skin_tone=1F575.1F3FB.200D.2642.FE0F",
    "man_detective_medium-dark_skin_tone=1F575.1F3FE.200D.2642.FE0F",
    "man_detective_medium-light_skin_tone=1F575.1F3FC.200D.2642.FE0F",
    "man_detective_medium_skin_tone=1F575.1F3FD.200D.2642.FE0F man_elf=1F9DD.200D.2642.FE0F",
    "man_elf_dark_skin_tone=1F9DD.1F3FF.200D.2642.FE0F",
    "man_elf_light_skin_tone=1F9DD.1F3FB.200D.2642.FE0F",
    "man_elf_medium-dark_skin_tone=1F9DD.1F3FE.200D.2642.FE0F",
    "man_elf_medium-light_skin_tone=1F9DD.1F3FC.200D.2642.FE0F",
    "man_elf_medium_skin_tone=1F9DD.1F3FD.200D.2642.FE0F man_facepalming=1F926.200D.2642.FE0F",
    "man_facepalming_dark_skin_tone=1F926.1F3FF.200D.2642.FE0F",
    "man_facepalming_light_skin_tone=1F926.1F3FB.200D.2642.FE0F",
    "man_facepalming_medium-dark_skin_tone=1F926.1F3FE.200D.2642.FE0F",
    "man_facepalming_medium-light_skin_tone=1F926.1F3FC.200D.2642.FE0F",
    "man_facepalming_medium_skin_tone=1F926.1F3FD.200D.2642.FE0F",
    "man_factory_worker=1F468.200D.1F3ED man_factory_worker_dark_skin_tone=1F468.1F3FF.200D.1F3ED",
    "man_factory_worker_light_skin_tone=1F468.1F3FB.200D.1F3ED",
    "man_factory_worker_medium-dark_skin_tone=1F468.1F3FE.200D.1F3ED",
    "man_factory_worker_medium-light_skin_tone=1F468.1F3FC.200D.1F3ED",
    "man_factory_worker_medium_skin_tone=1F468.1F3FD.200D.1F3ED man_fairy=1F9DA.200D.2642.FE0F",
    "man_fairy_dark_skin_tone=1F9DA.1F3FF.200D.2642.FE0F",
    "man_fairy_light_skin_tone=1F9DA.1F3FB.200D.2642.FE0F",
    "man_fairy_medium-dark_skin_tone=1F9DA.1F3FE.200D.2642.FE0F",
    "man_fairy_medium-light_skin_tone=1F9DA.1F3FC.200D.2642.FE0F",
    "man_fairy_medium_skin_tone=1F9DA.1F3FD.200D.2642.FE0F man_farmer=1F468.200D.1F33E",
    "man_farmer_dark_skin_tone=1F468.1F3FF.200D.1F33E",
    "man_farmer_light_skin_tone=1F468.1F3FB.200D.1F33E",
    "man_farmer_medium-dark_skin_tone=1F468.1F3FE.200D.1F33E",
    "man_farmer_medium-light_skin_tone=1F468.1F3FC.200D.1F33E",
    "man_farmer_medium_skin_tone=1F468.1F3FD.200D.1F33E man_firefighter=1F468.200D.1F692",
    "man_firefighter_dark_skin_tone=1F468.1F3FF.200D.1F692",
    "man_firefighter_light_skin_tone=1F468.1F3FB.200D.1F692",
    "man_firefighter_medium-dark_skin_tone=1F468.1F3FE.200D.1F692",
    "man_firefighter_medium-light_skin_tone=1F468.1F3FC.200D.1F692",
    "man_firefighter_medium_skin_tone=1F468.1F3FD.200D.1F692 man_frowning=1F64D.200D.2642.FE0F",
    "man_frowning_dark_skin_tone=1F64D.1F3FF.200D.2642.FE0F",
    "man_frowning_light_skin_tone=1F64D.1F3FB.200D.2642.FE0F",
    "man_frowning_medium-dark_skin_tone=1F64D.1F3FE.200D.2642.FE0F",
    "man_frowning_medium-light_skin_tone=1F64D.1F3FC.200D.2642.FE0F",
    "man_frowning_medium_skin_tone=1F64D.1F3FD.200D.2642.FE0F man_genie=1F9DE.200D.2642.FE0F",
    "man_gesturing_no=1F645.200D.2642.FE0F",
    "man_gesturing_no_dark_skin_tone=1F645.1F3FF.200D.2642.FE0F",
    "man_gesturing_no_light_skin_tone=1F645.1F3FB.200D.2642.FE0F",
    "man_gesturing_no_medium-dark_skin_tone=1F645.1F3FE.200D.2642.FE0F",
    "man_gesturing_no_medium-light_skin_tone=1F645.1F3FC.200D.2642.FE0F",
    "man_gesturing_no_medium_skin_tone=1F645.1F3FD.200D.2642.FE0F",
    "man_gesturing_ok=1F646.200D.2642.FE0F",
    "man_gesturing_ok_dark_skin_tone=1F646.1F3FF.200D.2642.FE0F",
    "man_gesturing_ok_light_skin_tone=1F646.1F3FB.200D.2642.FE0F",
    "man_gesturing_ok_medium-dark_skin_tone=1F646.1F3FE.200D.2642.FE0F",
    "man_gesturing_ok_medium-light_skin_tone=1F646.1F3FC.200D.2642.FE0F",
    "man_gesturing_ok_medium_skin_tone=1F646.1F3FD.200D.2642.FE0F",
    "man_getting_haircut=1F487.200D.2642.FE0F",
    "man_getting_haircut_dark_skin_tone=1F487.1F3FF.200D.2642.FE0F",
    "man_getting_haircut_light_skin_tone=1F487.1F3FB.200D.2642.FE0F",
    "man_getting_haircut_medium-dark_skin_tone=1F487.1F3FE.200D.2642.FE0F",
    "man_getting_haircut_medium-light_skin_tone=1F487.1F3FC.200D.2642.FE0F",
    "man_getting_haircut_medium_skin_tone=1F487.1F3FD.200D.2642.FE0F",
    "man_getting_massage=1F486.200D.2642.FE0F",
    "man_getting_massage_dark_skin_tone=1F486.1F3FF.200D.2642.FE0F",
    "man_getting_massage_light_skin_tone=1F486.1F3FB.200D.2642.FE0F",
    "man_getting_massage_medium-dark_skin_tone=1F486.1F3FE.200D.2642.FE0F",
    "man_getting_massage_medium-light_skin_tone=1F486.1F3FC.200D.2642.FE0F",
    "man_getting_massage_medium_skin_tone=1F486.1F3FD.200D.2642.FE0F",
    "man_golfing=1F3CC.FE0F.200D.2642.FE0F man_golfing_dark_skin_tone=1F3CC.1F3FF.200D.2642.FE0F",
    "man_golfing_light_skin_tone=1F3CC.1F3FB.200D.2642.FE0F",
    "man_golfing_medium-dark_skin_tone=1F3CC.1F3FE.200D.2642.FE0F",
    "man_golfing_medium-light_skin_tone=1F3CC.1F3FC.200D.2642.FE0F",
    "man_golfing_medium_skin_tone=1F3CC.1F3FD.200D.2642.FE0F man_guard=1F482.200D.2642.FE0F",
    "man_guard_dark_skin_tone=1F482.1F3FF.200D.2642.FE0F",
    "man_guard_light_skin_tone=1F482.1F3FB.200D.2642.FE0F",
    "man_guard_medium-dark_skin_tone=1F482.1F3FE.200D.2642.FE0F",
    "man_guard_medium-light_skin_tone=1F482.1F3FC.200D.2642.FE0F",
    "man_guard_medium_skin_tone=1F482.1F3FD.200D.2642.FE0F man_health_worker=1F468.200D.2695.FE0F",
    "man_health_worker_dark_skin_tone=1F468.1F3FF.200D.2695.FE0F",
    "man_health_worker_light_skin_tone=1F468.1F3FB.200D.2695.FE0F",
    "man_health_worker_medium-dark_skin_tone=1F468.1F3FE.200D.2695.FE0F",
    "man_health_worker_medium-light_skin_tone=1F468.1F3FC.200D.2695.FE0F",
    "man_health_worker_medium_skin_tone=1F468.1F3FD.200D.2695.FE0F",
    "man_in_business_suit_levitating=1F574 man_in_lotus_position=1F9D8.200D.2642.FE0F",
    "man_in_lotus_position_dark_skin_tone=1F9D8.1F3FF.200D.2642.FE0F",
    "man_in_lotus_position_light_skin_tone=1F9D8.1F3FB.200D.2642.FE0F",
    "man_in_lotus_position_medium-dark_skin_tone=1F9D8.1F3FE.200D.2642.FE0F",
    "man_in_lotus_position_medium-light_skin_tone=1F9D8.1F3FC.200D.2642.FE0F",
    "man_in_lotus_position_medium_skin_tone=1F9D8.1F3FD.200D.2642.FE0F",
    "man_in_manual_wheelchair=1F468.200D.1F9BD man_in_motorized_wheelchair=1F468.200D.1F9BC",
    "man_in_steamy_room=1F9D6.200D.2642.FE0F",
    "man_in_steamy_room_dark_skin_tone=1F9D6.1F3FF.200D.2642.FE0F",
    "man_in_steamy_room_light_skin_tone=1F9D6.1F3FB.200D.2642.FE0F",
    "man_in_steamy_room_medium-dark_skin_tone=1F9D6.1F3FE.200D.2642.FE0F",
    "man_in_steamy_room_medium-light_skin_tone=1F9D6.1F3FC.200D.2642.FE0F",
    "man_in_steamy_room_medium_skin_tone=1F9D6.1F3FD.200D.2642.FE0F man_in_suit_levitating=1F574",
    "man_in_suit_levitating_dark_skin_tone=1F574.1F3FF",
    "man_in_suit_levitating_light_skin_tone=1F574.1F3FB",
    "man_in_suit_levitating_medium-dark_skin_tone=1F574.1F3FE",
    "man_in_suit_levitating_medium-light_skin_tone=1F574.1F3FC",
    "man_in_suit_levitating_medium_skin_tone=1F574.1F3FD man_in_tuxedo=1F935",
    "man_in_tuxedo_dark_skin_tone=1F935.1F3FF man_in_tuxedo_light_skin_tone=1F935.1F3FB",
    "man_in_tuxedo_medium-dark_skin_tone=1F935.1F3FE",
    "man_in_tuxedo_medium-light_skin_tone=1F935.1F3FC man_in_tuxedo_medium_skin_tone=1F935.1F3FD",
    "man_judge=1F468.200D.2696.FE0F man_judge_dark_skin_tone=1F468.1F3FF.200D.2696.FE0F",
    "man_judge_light_skin_tone=1F468.1F3FB.200D.2696.FE0F",
    "man_judge_medium-dark_skin_tone=1F468.1F3FE.200D.2696.FE0F",
    "man_judge_medium-light_skin_tone=1F468.1F3FC.200D.2696.FE0F",
    "man_judge_medium_skin_tone=1F468.1F3FD.200D.2696.FE0F man_juggling=1F939.200D.2642.FE0F",
    "man_juggling_dark_skin_tone=1F939.1F3FF.200D.2642.FE0F",
    "man_juggling_light_skin_tone=1F939.1F3FB.200D.2642.FE0F",
    "man_juggling_medium-dark_skin_tone=1F939.1F3FE.200D.2642.FE0F",
    "man_juggling_medium-light_skin_tone=1F939.1F3FC.200D.2642.FE0F",
    "man_juggling_medium_skin_tone=1F939.1F3FD.200D.2642.FE0F",
    "man_lifting_weights=1F3CB.FE0F.200D.2642.FE0F",
    "man_lifting_weights_dark_skin_tone=1F3CB.1F3FF.200D.2642.FE0F",
    "man_lifting_weights_light_skin_tone=1F3CB.1F3FB.200D.2642.FE0F",
    "man_lifting_weights_medium-dark_skin_tone=1F3CB.1F3FE.200D.2642.FE0F",
    "man_lifting_weights_medium-light_skin_tone=1F3CB.1F3FC.200D.2642.FE0F",
    "man_lifting_weights_medium_skin_tone=1F3CB.1F3FD.200D.2642.FE0F",
    "man_light_skin_tone=1F468.1F3FB man_mage=1F9D9.200D.2642.FE0F",
    "man_mage_dark_skin_tone=1F9D9.1F3FF.200D.2642.FE0F",
    "man_mage_light_skin_tone=1F9D9.1F3FB.200D.2642.FE0F",
    "man_mage_medium-dark_skin_tone=1F9D9.1F3FE.200D.2642.FE0F",
    "man_mage_medium-light_skin_tone=1F9D9.1F3FC.200D.2642.FE0F",
    "man_mage_medium_skin_tone=1F9D9.1F3FD.200D.2642.FE0F man_mechanic=1F468.200D.1F527",
    "man_mechanic_dark_skin_tone=1F468.1F3FF.200D.1F527",
    "man_mechanic_light_skin_tone=1F468.1F3FB.200D.1F527",
    "man_mechanic_medium-dark_skin_tone=1F468.1F3FE.200D.1F527",
    "man_mechanic_medium-light_skin_tone=1F468.1F3FC.200D.1F527",
    "man_mechanic_medium_skin_tone=1F468.1F3FD.200D.1F527 man_medium-dark_skin_tone=1F468.1F3FE",
    "man_medium-light_skin_tone=1F468.1F3FC man_medium_skin_tone=1F468.1F3FD",
    "man_mountain_biking=1F6B5.200D.2642.FE0F",
    "man_mountain_biking_dark_skin_tone=1F6B5.1F3FF.200D.2642.FE0F",
    "man_mountain_biking_light_skin_tone=1F6B5.1F3FB.200D.2642.FE0F",
    "man_mountain_biking_medium-dark_skin_tone=1F6B5.1F3FE.200D.2642.FE0F",
    "man_mountain_biking_medium-light_skin_tone=1F6B5.1F3FC.200D.2642.FE0F",
    "man_mountain_biking_medium_skin_tone=1F6B5.1F3FD.200D.2642.FE0F",
    "man_office_worker=1F468.200D.1F4BC man_office_worker_dark_skin_tone=1F468.1F3FF.200D.1F4BC",
    "man_office_worker_light_skin_tone=1F468.1F3FB.200D.1F4BC",
    "man_office_worker_medium-dark_skin_tone=1F468.1F3FE.200D.1F4BC",
    "man_office_worker_medium-light_skin_tone=1F468.1F3FC.200D.1F4BC",
    "man_office_worker_medium_skin_tone=1F468.1F3FD.200D.1F4BC man_pilot=1F468.200D.2708.FE0F",
    "man_pilot_dark_skin_tone=1F468.1F3FF.200D.2708.FE0F",
    "man_pilot_light_skin_tone=1F468.1F3FB.200D.2708.FE0F",
    "man_pilot_medium-dark_skin_tone=1F468.1F3FE.200D.2708.FE0F",
    "man_pilot_medium-light_skin_tone=1F468.1F3FC.200D.2708.FE0F",
    "man_pilot_medium_skin_tone=1F468.1F3FD.200D.2708.FE0F",
    "man_playing_handball=1F93E.200D.2642.FE0F",
    "man_playing_handball_dark_skin_tone=1F93E.1F3FF.200D.2642.FE0F",
    "man_playing_handball_light_skin_tone=1F93E.1F3FB.200D.2642.FE0F",
    "man_playing_handball_medium-dark_skin_tone=1F93E.1F3FE.200D.2642.FE0F",
    "man_playing_handball_medium-light_skin_tone=1F93E.1F3FC.200D.2642.FE0F",
    "man_playing_handball_medium_skin_tone=1F93E.1F3FD.200D.2642.FE0F",
    "man_playing_water_polo=1F93D.200D.2642.FE0F",
    "man_playing_water_polo_dark_skin_tone=1F93D.1F3FF.200D.2642.FE0F",
    "man_playing_water_polo_light_skin_tone=1F93D.1F3FB.200D.2642.FE0F",
    "man_playing_water_polo_medium-dark_skin_tone=1F93D.1F3FE.200D.2642.FE0F",
    "man_playing_water_polo_medium-light_skin_tone=1F93D.1F3FC.200D.2642.FE0F",
    "man_playing_water_polo_medium_skin_tone=1F93D.1F3FD.200D.2642.FE0F",
    "man_police_officer=1F46E.200D.2642.FE0F",
    "man_police_officer_dark_skin_tone=1F46E.1F3FF.200D.2642.FE0F",
    "man_police_officer_light_skin_tone=1F46E.1F3FB.200D.2642.FE0F",
    "man_police_officer_medium-dark_skin_tone=1F46E.1F3FE.200D.2642.FE0F",
    "man_police_officer_medium-light_skin_tone=1F46E.1F3FC.200D.2642.FE0F",
    "man_police_officer_medium_skin_tone=1F46E.1F3FD.200D.2642.FE0F",
    "man_pouting=1F64E.200D.2642.FE0F man_pouting_dark_skin_tone=1F64E.1F3FF.200D.2642.FE0F",
    "man_pouting_light_skin_tone=1F64E.1F3FB.200D.2642.FE0F",
    "man_pouting_medium-dark_skin_tone=1F64E.1F3FE.200D.2642.FE0F",
    "man_pouting_medium-light_skin_tone=1F64E.1F3FC.200D.2642.FE0F",
    "man_pouting_medium_skin_tone=1F64E.1F3FD.200D.2642.FE0F",
    "man_raising_hand=1F64B.200D.2642.FE0F",
    "man_raising_hand_dark_skin_tone=1F64B.1F3FF.200D.2642.FE0F",
    "man_raising_hand_light_skin_tone=1F64B.1F3FB.200D.2642.FE0F",
    "man_raising_hand_medium-dark_skin_tone=1F64B.1F3FE.200D.2642.FE0F",
    "man_raising_hand_medium-light_skin_tone=1F64B.1F3FC.200D.2642.FE0F",
    "man_raising_hand_medium_skin_tone=1F64B.1F3FD.200D.2642.FE0F",
    "man_rowing_boat=1F6A3.200D.2642.FE0F",
    "man_rowing_boat_dark_skin_tone=1F6A3.1F3FF.200D.2642.FE0F",
    "man_rowing_boat_light_skin_tone=1F6A3.1F3FB.200D.2642.FE0F",
    "man_rowing_boat_medium-dark_skin_tone=1F6A3.1F3FE.200D.2642.FE0F",
    "man_rowing_boat_medium-light_skin_tone=1F6A3.1F3FC.200D.2642.FE0F",
    "man_rowing_boat_medium_skin_tone=1F6A3.1F3FD.200D.2642.FE0F man_running=1F3C3.200D.2642.FE0F",
    "man_running_dark_skin_tone=1F3C3.1F3FF.200D.2642.FE0F",
    "man_running_light_skin_tone=1F3C3.1F3FB.200D.2642.FE0F",
    "man_running_medium-dark_skin_tone=1F3C3.1F3FE.200D.2642.FE0F",
    "man_running_medium-light_skin_tone=1F3C3.1F3FC.200D.2642.FE0F",
    "man_running_medium_skin_tone=1F3C3.1F3FD.200D.2642.FE0F man_scientist=1F468.200D.1F52C",
    "man_scientist_dark_skin_tone=1F468.1F3FF.200D.1F52C",
    "man_scientist_light_skin_tone=1F468.1F3FB.200D.1F52C",
    "man_scientist_medium-dark_skin_tone=1F468.1F3FE.200D.1F52C",
    "man_scientist_medium-light_skin_tone=1F468.1F3FC.200D.1F52C",
    "man_scientist_medium_skin_tone=1F468.1F3FD.200D.1F52C man_shrugging=1F937.200D.2642.FE0F",
    "man_shrugging_dark_skin_tone=1F937.1F3FF.200D.2642.FE0F",
    "man_shrugging_light_skin_tone=1F937.1F3FB.200D.2642.FE0F",
    "man_shrugging_medium-dark_skin_tone=1F937.1F3FE.200D.2642.FE0F",
    "man_shrugging_medium-light_skin_tone=1F937.1F3FC.200D.2642.FE0F",
    "man_shrugging_medium_skin_tone=1F937.1F3FD.200D.2642.FE0F man_singer=1F468.200D.1F3A4",
    "man_singer_dark_skin_tone=1F468.1F3FF.200D.1F3A4",
    "man_singer_light_skin_tone=1F468.1F3FB.200D.1F3A4",
    "man_singer_medium-dark_skin_tone=1F468.1F3FE.200D.1F3A4",
    "man_singer_medium-light_skin_tone=1F468.1F3FC.200D.1F3A4",
    "man_singer_medium_skin_tone=1F468.1F3FD.200D.1F3A4 man_student=1F468.200D.1F393",
    "man_student_dark_skin_tone=1F468.1F3FF.200D.1F393",
    "man_student_light_skin_tone=1F468.1F3FB.200D.1F393",
    "man_student_medium-dark_skin_tone=1F468.1F3FE.200D.1F393",
    "man_student_medium-light_skin_tone=1F468.1F3FC.200D.1F393",
    "man_student_medium_skin_tone=1F468.1F3FD.200D.1F393 man_surfing=1F3C4.200D.2642.FE0F",
    "man_surfing_dark_skin_tone=1F3C4.1F3FF.200D.2642.FE0F",
    "man_surfing_light_skin_tone=1F3C4.1F3FB.200D.2642.FE0F",
    "man_surfing_medium-dark_skin_tone=1F3C4.1F3FE.200D.2642.FE0F",
    "man_surfing_medium-light_skin_tone=1F3C4.1F3FC.200D.2642.FE0F",
    "man_surfing_medium_skin_tone=1F3C4.1F3FD.200D.2642.FE0F man_swimming=1F3CA.200D.2642.FE0F",
    "man_swimming_dark_skin_tone=1F3CA.1F3FF.200D.2642.FE0F",
    "man_swimming_light_skin_tone=1F3CA.1F3FB.200D.2642.FE0F",
    "man_swimming_medium-dark_skin_tone=1F3CA.1F3FE.200D.2642.FE0F",
    "man_swimming_medium-light_skin_tone=1F3CA.1F3FC.200D.2642.FE0F",
    "man_swimming_medium_skin_tone=1F3CA.1F3FD.200D.2642.FE0F man_teacher=1F468.200D.1F3EB",
    "man_teacher_dark_skin_tone=1F468.1F3FF.200D.1F3EB",
    "man_teacher_light_skin_tone=1F468.1F3FB.200D.1F3EB",
    "man_teacher_medium-dark_skin_tone=1F468.1F3FE.200D.1F3EB",
    "man_teacher_medium-light_skin_tone=1F468.1F3FC.200D.1F3EB",
    "man_teacher_medium_skin_tone=1F468.1F3FD.200D.1F3EB man_technologist=1F468.200D.1F4BB",
    "man_technologist_dark_skin_tone=1F468.1F3FF.200D.1F4BB",
    "man_technologist_light_skin_tone=1F468.1F3FB.200D.1F4BB",
    "man_technologist_medium-dark_skin_tone=1F468.1F3FE.200D.1F4BB",
    "man_technologist_medium-light_skin_tone=1F468.1F3FC.200D.1F4BB",
    "man_technologist_medium_skin_tone=1F468.1F3FD.200D.1F4BB",
    "man_tipping_hand=1F481.200D.2642.FE0F",
    "man_tipping_hand_dark_skin_tone=1F481.1F3FF.200D.2642.FE0F",
    "man_tipping_hand_light_skin_tone=1F481.1F3FB.200D.2642.FE0F",
    "man_tipping_hand_medium-dark_skin_tone=1F481.1F3FE.200D.2642.FE0F",
    "man_tipping_hand_medium-light_skin_tone=1F481.1F3FC.200D.2642.FE0F",
    "man_tipping_hand_medium_skin_tone=1F481.1F3FD.200D.2642.FE0F",
    "man_vampire=1F9DB.200D.2642.FE0F man_vampire_dark_skin_tone=1F9DB.1F3FF.200D.2642.FE0F",
    "man_vampire_light_skin_tone=1F9DB.1F3FB.200D.2642.FE0F",
    "man_vampire_medium-dark_skin_tone=1F9DB.1F3FE.200D.2642.FE0F",
    "man_vampire_medium-light_skin_tone=1F9DB.1F3FC.200D.2642.FE0F",
    "man_vampire_medium_skin_tone=1F9DB.1F3FD.200D.2642.FE0F man_walking=1F6B6.200D.2642.FE0F",
    "man_walking_dark_skin_tone=1F6B6.1F3FF.200D.2642.FE0F",
    "man_walking_light_skin_tone=1F6B6.1F3FB.200D.2642.FE0F",
    "man_walking_medium-dark_skin_tone=1F6B6.1F3FE.200D.2642.FE0F",
    "man_walking_medium-light_skin_tone=1F6B6.1F3FC.200D.2642.FE0F",
    "man_walking_medium_skin_tone=1F6B6.1F3FD.200D.2642.FE0F",
    "man_wearing_turban=1F473.200D.2642.FE0F",
    "man_wearing_turban_dark_skin_tone=1F473.1F3FF.200D.2642.FE0F",
    "man_wearing_turban_light_skin_tone=1F473.1F3FB.200D.2642.FE0F",
    "man_wearing_turban_medium-dark_skin_tone=1F473.1F3FE.200D.2642.FE0F",
    "man_wearing_turban_medium-light_skin_tone=1F473.1F3FC.200D.2642.FE0F",
    "man_wearing_turban_medium_skin_tone=1F473.1F3FD.200D.2642.FE0F man_with_chinese_cap=1F472",
    "man_with_chinese_cap_dark_skin_tone=1F472.1F3FF",
    "man_with_chinese_cap_light_skin_tone=1F472.1F3FB",
    "man_with_chinese_cap_medium-dark_skin_tone=1F472.1F3FE",
    "man_with_chinese_cap_medium-light_skin_tone=1F472.1F3FC",
    "man_with_chinese_cap_medium_skin_tone=1F472.1F3FD man_with_gua_pi_mao=1F472",
    "man_with_probing_cane=1F468.200D.1F9AF man_with_turban=1F473 man_zombie=1F9DF.200D.2642.FE0F",
    "mango=1F96D mans_shoe=1F45E mantelpiece_clock=1F570 manual_wheelchair=1F9BD man’s_shoe=1F45E",
    "map_of_japan=1F5FE maple_leaf=1F341 marshall_islands=1F1F2.1F1ED martial_arts_uniform=1F94B",
    "martinique=1F1F2.1F1F6 mask=1F637 massage=1F486 mate=1F9C9 mauritania=1F1F2.1F1F7",
    "mauritius=1F1F2.1F1FA mayotte=1F1FE.1F1F9 meat_on_bone=1F356 mechanical_arm=1F9BE",
    "mechanical_leg=1F9BF medical_symbol=2695 medium_dark_skin_tone=1F3FE",
    "medium_light_skin_tone=1F3FC medium_skin_tone=1F3FD mega=1F4E3 megaphone=1F4E3 melon=1F348",
    "memo=1F4DD men_with_bunny_ears=1F46F.200D.2642.FE0F men_wrestling=1F93C.200D.2642.FE0F",
    "menorah=1F54E menorah_with_nine_branches=1F54E mens=1F6B9 men’s_room=1F6B9",
    "mermaid=1F9DC.200D.2640.FE0F mermaid_dark_skin_tone=1F9DC.1F3FF.200D.2640.FE0F",
    "mermaid_light_skin_tone=1F9DC.1F3FB.200D.2640.FE0F",
    "mermaid_medium-dark_skin_tone=1F9DC.1F3FE.200D.2640.FE0F",
    "mermaid_medium-light_skin_tone=1F9DC.1F3FC.200D.2640.FE0F",
    "mermaid_medium_skin_tone=1F9DC.1F3FD.200D.2640.FE0F merman=1F9DC.200D.2642.FE0F",
    "merman_dark_skin_tone=1F9DC.1F3FF.200D.2642.FE0F",
    "merman_light_skin_tone=1F9DC.1F3FB.200D.2642.FE0F",
    "merman_medium-dark_skin_tone=1F9DC.1F3FE.200D.2642.FE0F",
    "merman_medium-light_skin_tone=1F9DC.1F3FC.200D.2642.FE0F",
    "merman_medium_skin_tone=1F9DC.1F3FD.200D.2642.FE0F merperson=1F9DC",
    "merperson_dark_skin_tone=1F9DC.1F3FF merperson_light_skin_tone=1F9DC.1F3FB",
    "merperson_medium-dark_skin_tone=1F9DC.1F3FE merperson_medium-light_skin_tone=1F9DC.1F3FC",
    "merperson_medium_skin_tone=1F9DC.1F3FD metro=1F687 mexico=1F1F2.1F1FD microbe=1F9A0",
    "micronesia=1F1EB.1F1F2 microphone=1F3A4 microscope=1F52C middle_finger=1F595",
    "middle_finger_dark_skin_tone=1F595.1F3FF middle_finger_light_skin_tone=1F595.1F3FB",
    "middle_finger_medium-dark_skin_tone=1F595.1F3FE",
    "middle_finger_medium-light_skin_tone=1F595.1F3FC middle_finger_medium_skin_tone=1F595.1F3FD",
    "military_medal=1F396 milky_way=1F30C minibus=1F690 minidisc=1F4BD moai=1F5FF",
    "mobile_phone=1F4F1 mobile_phone_off=1F4F4 mobile_phone_with_arrow=1F4F2 moldova=1F1F2.1F1E9",
    "monaco=1F1F2.1F1E8 money-mouth_face=1F911 money__mouth_face=1F911 money_bag=1F4B0",
    "money_with_wings=1F4B8 moneybag=1F4B0 mongolia=1F1F2.1F1F3 monkey=1F412 monkey_face=1F435",
    "monorail=1F69D montenegro=1F1F2.1F1EA montserrat=1F1F2.1F1F8 moon=1F314 moon_cake=1F96E",
    "moon_viewing_ceremony=1F391 morocco=1F1F2.1F1E6 mortar_board=1F393 mosque=1F54C",
    "mosquito=1F99F motor_boat=1F6E5 motor_scooter=1F6F5 motorcycle=1F3CD",
    "motorized_wheelchair=1F9BC motorway=1F6E3 mount_fuji=1F5FB mountain=26F0",
    "mountain_bicyclist=1F6B5 mountain_cableway=1F6A0 mountain_railway=1F69E mouse=1F42D",
    "mouse2=1F401 mouse_face=1F42D mouth=1F444 movie_camera=1F3A5 moyai=1F5FF",
    "mozambique=1F1F2.1F1FF mrs._claus=1F936 mrs._claus_dark_skin_tone=1F936.1F3FF",
    "mrs._claus_light_skin_tone=1F936.1F3FB mrs._claus_medium-dark_skin_tone=1F936.1F3FE",
    "mrs._claus_medium-light_skin_tone=1F936.1F3FC mrs._claus_medium_skin_tone=1F936.1F3FD",
    "muscle=1F4AA mushroom=1F344 musical_keyboard=1F3B9 musical_note=1F3B5 musical_notes=1F3B6",
    "musical_score=1F3BC mute=1F507 muted_speaker=1F507 myanmar_(burma)=1F1F2.1F1F2"]

end StackManifest.Console.Emoji
