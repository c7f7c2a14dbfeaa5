/-!
# Names of pictures from N on

Names of pictures that begin with the letters from N to S.

* `namesFromN` – the names, each with the code points of its picture.
-/

namespace StackManifest.Console.Emoji

/-- **Names** of pictures: several in a line, each with the code points of its picture. -/
def namesFromN : List String :=
  [
    "nail_care=1F485 nail_polish=1F485 nail_polish_dark_skin_tone=1F485.1F3FF",
    "nail_polish_light_skin_tone=1F485.1F3FB nail_polish_medium-dark_skin_tone=1F485.1F3FE",
    "nail_polish_medium-light_skin_tone=1F485.1F3FC nail_polish_medium_skin_tone=1F485.1F3FD",
    "name_badge=1F4DB namibia=1F1F3.1F1E6 national_park=1F3DE nauru=1F1F3.1F1F7",
    "nauseated_face=1F922 nazar_amulet=1F9FF necktie=1F454 negative_squared_cross_mark=274E",
    "nepal=1F1F3.1F1F5 nerd_face=1F913 netherlands=1F1F3.1F1F1 neutral_face=1F610 new=1F195",
    "new_button=1F195 new_caledonia=1F1F3.1F1E8 new_moon=1F311 new_moon_face=1F31A",
    "new_moon_with_face=1F31A new_zealand=1F1F3.1F1FF newspaper=1F4F0 next_track_button=23ED",
    "ng=1F196 ng_button=1F196 nicaragua=1F1F3.1F1EE niger=1F1F3.1F1EA nigeria=1F1F3.1F1EC",
    "night_with_stars=1F303 nine=39.FE0F.20E3 nine-thirty=1F564 nine_o’clock=1F558",
    "niue=1F1F3.1F1FA no_bell=1F515 no_bicycles=1F6B3 no_entry=26D4 no_entry_sign=1F6AB",
    "no_good=1F645 no_littering=1F6AF no_mobile_phones=1F4F5 no_mouth=1F636",
    "no_one_under_eighteen=1F51E no_pedestrians=1F6B7 no_smoking=1F6AD non-potable_water=1F6B1",
    "non__potable_water=1F6B1 norfolk_island=1F1F3.1F1EB north_korea=1F1F0.1F1F5",
    "northern_mariana_islands=1F1F2.1F1F5 norway=1F1F3.1F1F4 nose=1F443",
    "nose_dark_skin_tone=1F443.1F3FF nose_light_skin_tone=1F443.1F3FB",
    "nose_medium-dark_skin_tone=1F443.1F3FE nose_medium-light_skin_tone=1F443.1F3FC",
    "nose_medium_skin_tone=1F443.1F3FD notebook=1F4D3 notebook_with_decorative_cover=1F4D4",
    "notes=1F3B6 nut_and_bolt=1F529 o=2B55 o2=1F17E o_button_(blood_type)=1F17E ocean=1F30A",
    "octopus=1F419 oden=1F362 office=1F3E2 office_building=1F3E2 ogre=1F479 oil_drum=1F6E2",
    "ok=1F197 ok_button=1F197 ok_hand=1F44C ok_hand_dark_skin_tone=1F44C.1F3FF",
    "ok_hand_light_skin_tone=1F44C.1F3FB ok_hand_medium-dark_skin_tone=1F44C.1F3FE",
    "ok_hand_medium-light_skin_tone=1F44C.1F3FC ok_hand_medium_skin_tone=1F44C.1F3FD",
    "ok_woman=1F646 old_key=1F5DD old_man=1F474 old_man_dark_skin_tone=1F474.1F3FF",
    "old_man_light_skin_tone=1F474.1F3FB old_man_medium-dark_skin_tone=1F474.1F3FE",
    "old_man_medium-light_skin_tone=1F474.1F3FC old_man_medium_skin_tone=1F474.1F3FD",
    "old_woman=1F475 old_woman_dark_skin_tone=1F475.1F3FF old_woman_light_skin_tone=1F475.1F3FB",
    "old_woman_medium-dark_skin_tone=1F475.1F3FE old_woman_medium-light_skin_tone=1F475.1F3FC",
    "old_woman_medium_skin_tone=1F475.1F3FD older_adult=1F9D3",
    "older_adult_dark_skin_tone=1F9D3.1F3FF older_adult_light_skin_tone=1F9D3.1F3FB",
    "older_adult_medium-dark_skin_tone=1F9D3.1F3FE older_adult_medium-light_skin_tone=1F9D3.1F3FC",
    "older_adult_medium_skin_tone=1F9D3.1F3FD older_man=1F474 older_woman=1F475 om=1F549",
    "om_symbol=1F549 oman=1F1F4.1F1F2 on=1F51B on!_arrow=1F51B oncoming_automobile=1F698",
    "oncoming_bus=1F68D oncoming_fist=1F44A oncoming_fist_dark_skin_tone=1F44A.1F3FF",
    "oncoming_fist_light_skin_tone=1F44A.1F3FB oncoming_fist_medium-dark_skin_tone=1F44A.1F3FE",
    "oncoming_fist_medium-light_skin_tone=1F44A.1F3FC oncoming_fist_medium_skin_tone=1F44A.1F3FD",
    "oncoming_police_car=1F694 oncoming_taxi=1F696 one=31.FE0F.20E3 one-piece_swimsuit=1FA71",
    "one-thirty=1F55C one_o’clock=1F550 onion=1F9C5 open_book=1F4D6 open_file_folder=1F4C2",
    "open_hands=1F450 open_hands_dark_skin_tone=1F450.1F3FF",
    "open_hands_light_skin_tone=1F450.1F3FB open_hands_medium-dark_skin_tone=1F450.1F3FE",
    "open_hands_medium-light_skin_tone=1F450.1F3FC open_hands_medium_skin_tone=1F450.1F3FD",
    "open_mailbox_with_lowered_flag=1F4ED open_mailbox_with_raised_flag=1F4EC open_mouth=1F62E",
    "ophiuchus=26CE optical_disk=1F4BF orange_book=1F4D9 orange_circle=1F7E0 orange_heart=1F9E1",
    "orange_square=1F7E7 orangutan=1F9A7 orthodox_cross=2626 otter=1F9A6 outbox_tray=1F4E4",
    "owl=1F989 ox=1F402 oyster=1F9AA p_button=1F17F package=1F4E6 page_facing_up=1F4C4",
    "page_with_curl=1F4C3 pager=1F4DF paintbrush=1F58C pakistan=1F1F5.1F1F0 palau=1F1F5.1F1FC",
    "palestinian_territories=1F1F5.1F1F8 palm_tree=1F334 palms_up_together=1F932",
    "palms_up_together_dark_skin_tone=1F932.1F3FF palms_up_together_light_skin_tone=1F932.1F3FB",
    "palms_up_together_medium-dark_skin_tone=1F932.1F3FE",
    "palms_up_together_medium-light_skin_tone=1F932.1F3FC",
    "palms_up_together_medium_skin_tone=1F932.1F3FD panama=1F1F5.1F1E6 pancakes=1F95E",
    "panda_face=1F43C paperclip=1F4CE papua_new_guinea=1F1F5.1F1EC paraguay=1F1F5.1F1FE",
    "parking=1F17F parrot=1F99C part_alternation_mark=303D partly_sunny=26C5 party_popper=1F389",
    "partying_face=1F973 passenger_ship=1F6F3 passport_control=1F6C2 pause_button=23F8",
    "paw_prints=1F43E peace_symbol=262E peach=1F351 peacock=1F99A peanuts=1F95C pear=1F350",
    "pen=1F58A pencil=1F4DD pencil2=270F penguin=1F427 pensive=1F614 pensive_face=1F614",
    "people_holding_hands=1F9D1.200D.1F91D.200D.1F9D1 people_with_bunny_ears=1F46F",
    "people_wrestling=1F93C performing_arts=1F3AD persevere=1F623 persevering_face=1F623",
    "person_biking=1F6B4 person_biking_dark_skin_tone=1F6B4.1F3FF",
    "person_biking_light_skin_tone=1F6B4.1F3FB person_biking_medium-dark_skin_tone=1F6B4.1F3FE",
    "person_biking_medium-light_skin_tone=1F6B4.1F3FC person_biking_medium_skin_tone=1F6B4.1F3FD",
    "person_bouncing_ball=26F9 person_bouncing_ball_dark_skin_tone=26F9.1F3FF",
    "person_bouncing_ball_light_skin_tone=26F9.1F3FB",
    "person_bouncing_ball_medium-dark_skin_tone=26F9.1F3FE",
    "person_bouncing_ball_medium-light_skin_tone=26F9.1F3FC",
    "person_bouncing_ball_medium_skin_tone=26F9.1F3FD person_bowing=1F647",
    "person_bowing_dark_skin_tone=1F647.1F3FF person_bowing_light_skin_tone=1F647.1F3FB",
    "person_bowing_medium-dark_skin_tone=1F647.1F3FE",
    "person_bowing_medium-light_skin_tone=1F647.1F3FC person_bowing_medium_skin_tone=1F647.1F3FD",
    "person_cartwheeling=1F938 person_cartwheeling_dark_skin_tone=1F938.1F3FF",
    "person_cartwheeling_light_skin_tone=1F938.1F3FB",
    "person_cartwheeling_medium-dark_skin_tone=1F938.1F3FE",
    "person_cartwheeling_medium-light_skin_tone=1F938.1F3FC",
    "person_cartwheeling_medium_skin_tone=1F938.1F3FD person_climbing=1F9D7",
    "person_climbing_dark_skin_tone=1F9D7.1F3FF person_climbing_light_skin_tone=1F9D7.1F3FB",
    "person_climbing_medium-dark_skin_tone=1F9D7.1F3FE",
    "person_climbing_medium-light_skin_tone=1F9D7.1F3FC",
    "person_climbing_medium_skin_tone=1F9D7.1F3FD person_facepalming=1F926",
    "person_facepalming_dark_skin_tone=1F926.1F3FF person_facepalming_light_skin_tone=1F926.1F3FB",
    "person_facepalming_medium-dark_skin_tone=1F926.1F3FE",
    "person_facepalming_medium-light_skin_tone=1F926.1F3FC",
    "person_facepalming_medium_skin_tone=1F926.1F3FD person_fencing=1F93A person_frowning=1F64D",
    "person_frowning_dark_skin_tone=1F64D.1F3FF person_frowning_light_skin_tone=1F64D.1F3FB",
    "person_frowning_medium-dark_skin_tone=1F64D.1F3FE",
    "person_frowning_medium-light_skin_tone=1F64D.1F3FC",
    "person_frowning_medium_skin_tone=1F64D.1F3FD person_gesturing_no=1F645",
    "person_gesturing_no_dark_skin_tone=1F645.1F3FF",
    "person_gesturing_no_light_skin_tone=1F645.1F3FB",
    "person_gesturing_no_medium-dark_skin_tone=1F645.1F3FE",
    "person_gesturing_no_medium-light_skin_tone=1F645.1F3FC",
    "person_gesturing_no_medium_skin_tone=1F645.1F3FD person_gesturing_ok=1F646",
    "person_gesturing_ok_dark_skin_tone=1F646.1F3FF",
    "person_gesturing_ok_light_skin_tone=1F646.1F3FB",
    "person_gesturing_ok_medium-dark_skin_tone=1F646.1F3FE",
    "person_gesturing_ok_medium-light_skin_tone=1F646.1F3FC",
    "person_gesturing_ok_medium_skin_tone=1F646.1F3FD person_getting_haircut=1F487",
    "person_getting_haircut_dark_skin_tone=1F487.1F3FF",
    "person_getting_haircut_light_skin_tone=1F487.1F3FB",
    "person_getting_haircut_medium-dark_skin_tone=1F487.1F3FE",
    "person_getting_haircut_medium-light_skin_tone=1F487.1F3FC",
    "person_getting_haircut_medium_skin_tone=1F487.1F3FD person_getting_massage=1F486",
    "person_getting_massage_dark_skin_tone=1F486.1F3FF",
    "person_getting_massage_light_skin_tone=1F486.1F3FB",
    "person_getting_massage_medium-dark_skin_tone=1F486.1F3FE",
    "person_getting_massage_medium-light_skin_tone=1F486.1F3FC",
    "person_getting_massage_medium_skin_tone=1F486.1F3FD person_golfing=1F3CC",
    "person_golfing_dark_skin_tone=1F3CC.1F3FF person_golfing_light_skin_tone=1F3CC.1F3FB",
    "person_golfing_medium-dark_skin_tone=1F3CC.1F3FE",
    "person_golfing_medium-light_skin_tone=1F3CC.1F3FC",
    "person_golfing_medium_skin_tone=1F3CC.1F3FD person_in_bed=1F6CC",
    "person_in_bed_dark_skin_tone=1F6CC.1F3FF person_in_bed_light_skin_tone=1F6CC.1F3FB",
    "person_in_bed_medium-dark_skin_tone=1F6CC.1F3FE",
    "person_in_bed_medium-light_skin_tone=1F6CC.1F3FC person_in_bed_medium_skin_tone=1F6CC.1F3FD",
    "person_in_lotus_position=1F9D8 person_in_lotus_position_dark_skin_tone=1F9D8.1F3FF",
    "person_in_lotus_position_light_skin_tone=1F9D8.1F3FB",
    "person_in_lotus_position_medium-dark_skin_tone=1F9D8.1F3FE",
    "person_in_lotus_position_medium-light_skin_tone=1F9D8.1F3FC",
    "person_in_lotus_position_medium_skin_tone=1F9D8.1F3FD person_in_steamy_room=1F9D6",
    "person_in_steamy_room_dark_skin_tone=1F9D6.1F3FF",
    "person_in_steamy_room_light_skin_tone=1F9D6.1F3FB",
    "person_in_steamy_room_medium-dark_skin_tone=1F9D6.1F3FE",
    "person_in_steamy_room_medium-light_skin_tone=1F9D6.1F3FC",
    "person_in_steamy_room_medium_skin_tone=1F9D6.1F3FD person_juggling=1F939",
    "person_juggling_dark_skin_tone=1F939.1F3FF person_juggling_light_skin_tone=1F939.1F3FB",
    "person_juggling_medium-dark_skin_tone=1F939.1F3FE",
    "person_juggling_medium-light_skin_tone=1F939.1F3FC",
    "person_juggling_medium_skin_tone=1F939.1F3FD person_kneeling=1F9CE",
    "person_lifting_weights=1F3CB person_lifting_weights_dark_skin_tone=1F3CB.1F3FF",
    "person_lifting_weights_light_skin_tone=1F3CB.1F3FB",
    "person_lifting_weights_medium-dark_skin_tone=1F3CB.1F3FE",
    "person_lifting_weights_medium-light_skin_tone=1F3CB.1F3FC",
    "person_lifting_weights_medium_skin_tone=1F3CB.1F3FD person_mountain_biking=1F6B5",
    "person_mountain_biking_dark_skin_tone=1F6B5.1F3FF",
    "person_mountain_biking_light_skin_tone=1F6B5.1F3FB",
    "person_mountain_biking_medium-dark_skin_tone=1F6B5.1F3FE",
    "person_mountain_biking_medium-light_skin_tone=1F6B5.1F3FC",
    "person_mountain_biking_medium_skin_tone=1F6B5.1F3FD person_playing_handball=1F93E",
    "person_playing_handball_dark_skin_tone=1F93E.1F3FF",
    "person_playing_handball_light_skin_tone=1F93E.1F3FB",
    "person_playing_handball_medium-dark_skin_tone=1F93E.1F3FE",
    "person_playing_handball_medium-light_skin_tone=1F93E.1F3FC",
    "person_playing_handball_medium_skin_tone=1F93E.1F3FD person_playing_water_polo=1F93D",
    "person_playing_water_polo_dark_skin_tone=1F93D.1F3FF",
    "person_playing_water_polo_light_skin_tone=1F93D.1F3FB",
    "person_playing_water_polo_medium-dark_skin_tone=1F93D.1F3FE",
    "person_playing_water_polo_medium-light_skin_tone=1F93D.1F3FC",
    "person_playing_water_polo_medium_skin_tone=1F93D.1F3FD person_pouting=1F64E",
    "person_pouting_dark_skin_tone=1F64E.1F3FF person_pouting_light_skin_tone=1F64E.1F3FB",
    "person_pouting_medium-dark_skin_tone=1F64E.1F3FE",
    "person_pouting_medium-light_skin_tone=1F64E.1F3FC",
    "person_pouting_medium_skin_tone=1F64E.1F3FD person_raising_hand=1F64B",
    "person_raising_hand_dark_skin_tone=1F64B.1F3FF",
    "person_raising_hand_light_skin_tone=1F64B.1F3FB",
    "person_raising_hand_medium-dark_skin_tone=1F64B.1F3FE",
    "person_raising_hand_medium-light_skin_tone=1F64B.1F3FC",
    "person_raising_hand_medium_skin_tone=1F64B.1F3FD person_rowing_boat=1F6A3",
    "person_rowing_boat_dark_skin_tone=1F6A3.1F3FF person_rowing_boat_light_skin_tone=1F6A3.1F3FB",
    "person_rowing_boat_medium-dark_skin_tone=1F6A3.1F3FE",
    "person_rowing_boat_medium-light_skin_tone=1F6A3.1F3FC",
    "person_rowing_boat_medium_skin_tone=1F6A3.1F3FD person_running=1F3C3",
    "person_running_dark_skin_tone=1F3C3.1F3FF person_running_light_skin_tone=1F3C3.1F3FB",
    "person_running_medium-dark_skin_tone=1F3C3.1F3FE",
    "person_running_medium-light_skin_tone=1F3C3.1F3FC",
    "person_running_medium_skin_tone=1F3C3.1F3FD person_shrugging=1F937",
    "person_shrugging_dark_skin_tone=1F937.1F3FF person_shrugging_light_skin_tone=1F937.1F3FB",
    "person_shrugging_medium-dark_skin_tone=1F937.1F3FE",
    "person_shrugging_medium-light_skin_tone=1F937.1F3FC",
    "person_shrugging_medium_skin_tone=1F937.1F3FD person_standing=1F9CD person_surfing=1F3C4",
    "person_surfing_dark_skin_tone=1F3C4.1F3FF person_surfing_light_skin_tone=1F3C4.1F3FB",
    "person_surfing_medium-dark_skin_tone=1F3C4.1F3FE",
    "person_surfing_medium-light_skin_tone=1F3C4.1F3FC",
    "person_surfing_medium_skin_tone=1F3C4.1F3FD person_swimming=1F3CA",
    "person_swimming_dark_skin_tone=1F3CA.1F3FF person_swimming_light_skin_tone=1F3CA.1F3FB",
    "person_swimming_medium-dark_skin_tone=1F3CA.1F3FE",
    "person_swimming_medium-light_skin_tone=1F3CA.1F3FC",
    "person_swimming_medium_skin_tone=1F3CA.1F3FD person_taking_bath=1F6C0",
    "person_taking_bath_dark_skin_tone=1F6C0.1F3FF person_taking_bath_light_skin_tone=1F6C0.1F3FB",
    "person_taking_bath_medium-dark_skin_tone=1F6C0.1F3FE",
    "person_taking_bath_medium-light_skin_tone=1F6C0.1F3FC",
    "person_taking_bath_medium_skin_tone=1F6C0.1F3FD person_tipping_hand=1F481",
    "person_tipping_hand_dark_skin_tone=1F481.1F3FF",
    "person_tipping_hand_light_skin_tone=1F481.1F3FB",
    "person_tipping_hand_medium-dark_skin_tone=1F481.1F3FE",
    "person_tipping_hand_medium-light_skin_tone=1F481.1F3FC",
    "person_tipping_hand_medium_skin_tone=1F481.1F3FD person_walking=1F6B6",
    "person_walking_dark_skin_tone=1F6B6.1F3FF person_walking_light_skin_tone=1F6B6.1F3FB",
    "person_walking_medium-dark_skin_tone=1F6B6.1F3FE",
    "person_walking_medium-light_skin_tone=1F6B6.1F3FC",
    "person_walking_medium_skin_tone=1F6B6.1F3FD person_wearing_turban=1F473",
    "person_wearing_turban_dark_skin_tone=1F473.1F3FF",
    "person_wearing_turban_light_skin_tone=1F473.1F3FB",
    "person_wearing_turban_medium-dark_skin_tone=1F473.1F3FE",
    "person_wearing_turban_medium-light_skin_tone=1F473.1F3FC",
    "person_wearing_turban_medium_skin_tone=1F473.1F3FD person_with_ball=26F9",
    "person_with_blond_hair=1F471 person_with_pouting_face=1F64E peru=1F1F5.1F1EA",
    "petri_dish=1F9EB philippines=1F1F5.1F1ED phone=260E pick=26CF pie=1F967 pig=1F437 pig2=1F416",
    "pig_face=1F437 pig_nose=1F43D pile_of_poo=1F4A9 pill=1F48A pinching_hand=1F90F",
    "pine_decoration=1F38D pineapple=1F34D ping_pong=1F3D3 pirate_flag=1F3F4.200D.2620.FE0F",
    "pisces=2653 pistol=1F52B pitcairn_islands=1F1F5.1F1F3 pizza=1F355 place_of_worship=1F6D0",
    "play_button=25B6 play_or_pause_button=23EF pleading_face=1F97A point_down=1F447",
    "point_left=1F448 point_right=1F449 point_up=261D point_up_2=1F446 poland=1F1F5.1F1F1",
    "police_car=1F693 police_car_light=1F6A8 police_officer=1F46E",
    "police_officer_dark_skin_tone=1F46E.1F3FF police_officer_light_skin_tone=1F46E.1F3FB",
    "police_officer_medium-dark_skin_tone=1F46E.1F3FE",
    "police_officer_medium-light_skin_tone=1F46E.1F3FC",
    "police_officer_medium_skin_tone=1F46E.1F3FD poodle=1F429 pool_8_ball=1F3B1 poop=1F4A9",
    "popcorn=1F37F portugal=1F1F5.1F1F9 post_office=1F3E3 postal_horn=1F4EF postbox=1F4EE",
    "pot_of_food=1F372 potable_water=1F6B0 potato=1F954 pouch=1F45D poultry_leg=1F357 pound=1F4B7",
    "pound_banknote=1F4B7 pouting_cat=1F63E pouting_cat_face=1F63E pouting_face=1F621 pray=1F64F",
    "prayer_beads=1F4FF pregnant_woman=1F930 pregnant_woman_dark_skin_tone=1F930.1F3FF",
    "pregnant_woman_light_skin_tone=1F930.1F3FB pregnant_woman_medium-dark_skin_tone=1F930.1F3FE",
    "pregnant_woman_medium-light_skin_tone=1F930.1F3FC",
    "pregnant_woman_medium_skin_tone=1F930.1F3FD pretzel=1F968 prince=1F934",
    "prince_dark_skin_tone=1F934.1F3FF prince_light_skin_tone=1F934.1F3FB",
    "prince_medium-dark_skin_tone=1F934.1F3FE prince_medium-light_skin_tone=1F934.1F3FC",
    "prince_medium_skin_tone=1F934.1F3FD princess=1F478 princess_dark_skin_tone=1F478.1F3FF",
    "princess_light_skin_tone=1F478.1F3FB princess_medium-dark_skin_tone=1F478.1F3FE",
    "princess_medium-light_skin_tone=1F478.1F3FC princess_medium_skin_tone=1F478.1F3FD",
    "printer=1F5A8 probing_cane=1F9AF prohibited=1F6AB puerto_rico=1F1F5.1F1F7 punch=1F44A",
    "purple_circle=1F7E3 purple_heart=1F49C purple_square=1F7EA purse=1F45B pushpin=1F4CC",
    "put_litter_in_its_place=1F6AE qatar=1F1F6.1F1E6 question=2753 question_mark=2753",
    "rabbit=1F430 rabbit2=1F407 rabbit_face=1F430 raccoon=1F99D racehorse=1F40E racing_car=1F3CE",
    "racing_motorcycle=1F3CD radio=1F4FB radio_button=1F518 radioactive=2622",
    "radioactive_sign=2622 rage=1F621 railway_car=1F683 railway_track=1F6E4 rainbow=1F308",
    "rainbow_flag=1F3F3.FE0F.200D.1F308 raised_back_of_hand=1F91A",
    "raised_back_of_hand_dark_skin_tone=1F91A.1F3FF",
    "raised_back_of_hand_light_skin_tone=1F91A.1F3FB",
    "raised_back_of_hand_medium-dark_skin_tone=1F91A.1F3FE",
    "raised_back_of_hand_medium-light_skin_tone=1F91A.1F3FC",
    "raised_back_of_hand_medium_skin_tone=1F91A.1F3FD raised_fist=270A",
    "raised_fist_dark_skin_tone=270A.1F3FF raised_fist_light_skin_tone=270A.1F3FB",
    "raised_fist_medium-dark_skin_tone=270A.1F3FE raised_fist_medium-light_skin_tone=270A.1F3FC",
    "raised_fist_medium_skin_tone=270A.1F3FD raised_hand=270B",
    "raised_hand_dark_skin_tone=270B.1F3FF raised_hand_light_skin_tone=270B.1F3FB",
    "raised_hand_medium-dark_skin_tone=270B.1F3FE raised_hand_medium-light_skin_tone=270B.1F3FC",
    "raised_hand_medium_skin_tone=270B.1F3FD raised_hand_with_fingers_splayed=1F590",
    "raised_hand_with_part_between_middle_and_ring_fingers=1F596 raised_hands=1F64C",
    "raising_hand=1F64B raising_hands=1F64C raising_hands_dark_skin_tone=1F64C.1F3FF",
    "raising_hands_light_skin_tone=1F64C.1F3FB raising_hands_medium-dark_skin_tone=1F64C.1F3FE",
    "raising_hands_medium-light_skin_tone=1F64C.1F3FC raising_hands_medium_skin_tone=1F64C.1F3FD",
    "ram=1F40F ramen=1F35C rat=1F400 razor=1FA92 receipt=1F9FE record_button=23FA recycle=267B",
    "recycling_symbol=267B red-haired_man=1F468.200D.1F9B0 red-haired_woman=1F469.200D.1F9B0",
    "red_apple=1F34E red_car=1F697 red_circle=1F534 red_envelope=1F9E7 red_hair=1F9B0",
    "red_heart=2764 red_paper_lantern=1F3EE red_square=1F7E5 red_triangle_pointed_down=1F53B",
    "red_triangle_pointed_up=1F53A regional_indicator_a=1F1E6 regional_indicator_b=1F1E7",
    "regional_indicator_c=1F1E8 regional_indicator_d=1F1E9 regional_indicator_e=1F1EA",
    "regional_indicator_f=1F1EB regional_indicator_g=1F1EC regional_indicator_h=1F1ED",
    "regional_indicator_i=1F1EE regional_indicator_j=1F1EF regional_indicator_k=1F1F0",
    "regional_indicator_l=1F1F1 regional_indicator_m=1F1F2 regional_indicator_n=1F1F3",
    "regional_indicator_o=1F1F4 regional_indicator_p=1F1F5 regional_indicator_q=1F1F6",
    "regional_indicator_r=1F1F7 regional_indicator_s=1F1F8",
    "regional_indicator_symbol_letter_a=1F1E6 regional_indicator_symbol_letter_b=1F1E7",
    "regional_indicator_symbol_letter_c=1F1E8 regional_indicator_symbol_letter_d=1F1E9",
    "regional_indicator_symbol_letter_e=1F1EA regional_indicator_symbol_letter_f=1F1EB",
    "regional_indicator_symbol_letter_g=1F1EC regional_indicator_symbol_letter_h=1F1ED",
    "regional_indicator_symbol_letter_i=1F1EE regional_indicator_symbol_letter_j=1F1EF",
    "regional_indicator_symbol_letter_k=1F1F0 regional_indicator_symbol_letter_l=1F1F1",
    "regional_indicator_symbol_letter_m=1F1F2 regional_indicator_symbol_letter_n=1F1F3",
    "regional_indicator_symbol_letter_o=1F1F4 regional_indicator_symbol_letter_p=1F1F5",
    "regional_indicator_symbol_letter_q=1F1F6 regional_indicator_symbol_letter_r=1F1F7",
    "regional_indicator_symbol_letter_s=1F1F8 regional_indicator_symbol_letter_t=1F1F9",
    "regional_indicator_symbol_letter_u=1F1FA regional_indicator_symbol_letter_v=1F1FB",
    "regional_indicator_symbol_letter_w=1F1FC regional_indicator_symbol_letter_x=1F1FD",
    "regional_indicator_symbol_letter_y=1F1FE regional_indicator_symbol_letter_z=1F1FF",
    "regional_indicator_t=1F1F9 regional_indicator_u=1F1FA regional_indicator_v=1F1FB",
    "regional_indicator_w=1F1FC regional_indicator_x=1F1FD regional_indicator_y=1F1FE",
    "regional_indicator_z=1F1FF registered=AE relaxed=263A relieved=1F60C relieved_face=1F60C",
    "reminder_ribbon=1F397 repeat=1F501 repeat_button=1F501 repeat_one=1F502",
    "repeat_single_button=1F502 rescue_worker’s_helmet=26D1 restroom=1F6BB reverse_button=25C0",
    "reversed_hand_with_middle_finger_extended=1F595 revolving_hearts=1F49E rewind=23EA",
    "rhinoceros=1F98F ribbon=1F380 rice=1F35A rice_ball=1F359 rice_cracker=1F358 rice_scene=1F391",
    "right-facing_fist=1F91C right-facing_fist_dark_skin_tone=1F91C.1F3FF",
    "right-facing_fist_light_skin_tone=1F91C.1F3FB",
    "right-facing_fist_medium-dark_skin_tone=1F91C.1F3FE",
    "right-facing_fist_medium-light_skin_tone=1F91C.1F3FC",
    "right-facing_fist_medium_skin_tone=1F91C.1F3FD right_anger_bubble=1F5EF right_arrow=27A1",
    "right_arrow_curving_down=2935 right_arrow_curving_left=21A9 right_arrow_curving_up=2934",
    "ring=1F48D ringed_planet=1FA90 roasted_sweet_potato=1F360 robot=1F916 robot_face=1F916",
    "rocket=1F680 roll_of_paper=1F9FB rolled-up_newspaper=1F5DE rolled__up_newspaper=1F5DE",
    "roller_coaster=1F3A2 rolling_on_the_floor_laughing=1F923 romania=1F1F7.1F1F4 rooster=1F413",
    "rose=1F339 rosette=1F3F5 rotating_light=1F6A8 round_pushpin=1F4CD rowboat=1F6A3",
    "rugby_football=1F3C9 runner=1F3C3 running=1F3C3 running_shirt=1F3BD",
    "running_shirt_with_sash=1F3BD running_shoe=1F45F russia=1F1F7.1F1FA rwanda=1F1F7.1F1FC",
    "réunion=1F1F7.1F1EA sa=1F202 sad_but_relieved_face=1F625 safety_pin=1F9F7 safety_vest=1F9BA",
    "sagittarius=2650 sailboat=26F5 sake=1F376 salt=1F9C2 samoa=1F1FC.1F1F8",
    "san_marino=1F1F8.1F1F2 sandal=1F461 sandwich=1F96A santa=1F385 santa_claus=1F385",
    "santa_claus_dark_skin_tone=1F385.1F3FF santa_claus_light_skin_tone=1F385.1F3FB",
    "santa_claus_medium-dark_skin_tone=1F385.1F3FE santa_claus_medium-light_skin_tone=1F385.1F3FC",
    "santa_claus_medium_skin_tone=1F385.1F3FD sari=1F97B satellite=1F4E1 satellite_antenna=1F4E1",
    "satisfied=1F606 saudi_arabia=1F1F8.1F1E6 sauropod=1F995 saxophone=1F3B7 scales=2696",
    "scarf=1F9E3 school=1F3EB school_backpack=1F392 school_satchel=1F392 scissors=2702",
    "scorpio=264F scorpion=1F982 scorpius=264F scotland=1F3F4.E0067.E0062.E0073.E0063.E0074.E007F",
    "scream=1F631 scream_cat=1F640 scroll=1F4DC seat=1F4BA secret=3299 see-no-evil_monkey=1F648",
    "see_no_evil=1F648 seedling=1F331 selfie=1F933 selfie_dark_skin_tone=1F933.1F3FF",
    "selfie_light_skin_tone=1F933.1F3FB selfie_medium-dark_skin_tone=1F933.1F3FE",
    "selfie_medium-light_skin_tone=1F933.1F3FC selfie_medium_skin_tone=1F933.1F3FD",
    "senegal=1F1F8.1F1F3 serbia=1F1F7.1F1F8 service_dog=1F415.200D.1F9BA seven=37.FE0F.20E3",
    "seven-thirty=1F562 seven_o’clock=1F556 seychelles=1F1F8.1F1E8 shallow_pan_of_food=1F958",
    "shamrock=2618 shark=1F988 shaved_ice=1F367 sheaf_of_rice=1F33E sheep=1F411 shell=1F41A",
    "shield=1F6E1 shinto_shrine=26E9 ship=1F6A2 shirt=1F455 shit=1F4A9 shoe=1F45E",
    "shooting_star=1F320 shopping_bags=1F6CD shopping_cart=1F6D2 shortcake=1F370 shorts=1FA73",
    "shower=1F6BF shrimp=1F990 shuffle_tracks_button=1F500 shushing_face=1F92B",
    "sierra_leone=1F1F8.1F1F1 sign_of_the_horns=1F918",
    "sign_of_the_horns_dark_skin_tone=1F918.1F3FF sign_of_the_horns_light_skin_tone=1F918.1F3FB",
    "sign_of_the_horns_medium-dark_skin_tone=1F918.1F3FE",
    "sign_of_the_horns_medium-light_skin_tone=1F918.1F3FC",
    "sign_of_the_horns_medium_skin_tone=1F918.1F3FD signal_strength=1F4F6 singapore=1F1F8.1F1EC",
    "sint_maarten=1F1F8.1F1FD six=36.FE0F.20E3 six-thirty=1F561 six_o’clock=1F555",
    "six_pointed_star=1F52F skateboard=1F6F9 ski=1F3BF skier=26F7 skis=1F3BF skull=1F480",
    "skull_and_crossbones=2620 skunk=1F9A8 sled=1F6F7 sleeping=1F634 sleeping_accommodation=1F6CC",
    "sleeping_face=1F634 sleepy=1F62A sleepy_face=1F62A sleuth_or_spy=1F575",
    "slightly_frowning_face=1F641 slightly_smiling_face=1F642 slot_machine=1F3B0 sloth=1F9A5",
    "slovakia=1F1F8.1F1F0 slovenia=1F1F8.1F1EE small_airplane=1F6E9 small_blue_diamond=1F539",
    "small_orange_diamond=1F538 small_red_triangle=1F53A small_red_triangle_down=1F53B",
    "smile=1F604 smile_cat=1F638 smiley=1F603 smiley_cat=1F63A",
    "smiling_cat_face_with_heart-eyes=1F63B smiling_face=263A smiling_face_with_3_hearts=1F970",
    "smiling_face_with_halo=1F607 smiling_face_with_heart-eyes=1F60D",
    "smiling_face_with_horns=1F608 smiling_face_with_smiling_eyes=1F60A",
    "smiling_face_with_sunglasses=1F60E smiling_imp=1F608 smirk=1F60F smirk_cat=1F63C",
    "smirking_face=1F60F smoking=1F6AC snail=1F40C snake=1F40D sneezing_face=1F927",
    "snow-capped_mountain=1F3D4 snow_capped_mountain=1F3D4 snowboarder=1F3C2",
    "snowboarder_dark_skin_tone=1F3C2.1F3FF snowboarder_light_skin_tone=1F3C2.1F3FB",
    "snowboarder_medium-dark_skin_tone=1F3C2.1F3FE snowboarder_medium-light_skin_tone=1F3C2.1F3FC",
    "snowboarder_medium_skin_tone=1F3C2.1F3FD snowflake=2744 snowman=2603",
    "snowman_without_snow=26C4 soap=1F9FC sob=1F62D soccer=26BD soccer_ball=26BD socks=1F9E6",
    "soft_ice_cream=1F366 softball=1F94E solomon_islands=1F1F8.1F1E7 somalia=1F1F8.1F1F4",
    "soon=1F51C soon_arrow=1F51C sos=1F198 sos_button=1F198 sound=1F509 south_africa=1F1FF.1F1E6",
    "south_georgia_&_south_sandwich_islands=1F1EC.1F1F8 south_korea=1F1F0.1F1F7",
    "south_sudan=1F1F8.1F1F8 space_invader=1F47E spade_suit=2660 spades=2660 spaghetti=1F35D",
    "spain=1F1EA.1F1F8 sparkle=2747 sparkler=1F387 sparkles=2728 sparkling_heart=1F496",
    "speak-no-evil_monkey=1F64A speak_no_evil=1F64A speaker=1F508 speaker_high_volume=1F50A",
    "speaker_low_volume=1F508 speaker_medium_volume=1F509 speaking_head=1F5E3",
    "speaking_head_in_silhouette=1F5E3 speech_balloon=1F4AC speedboat=1F6A4 spider=1F577",
    "spider_web=1F578 spiral_calendar=1F5D3 spiral_calendar_pad=1F5D3 spiral_note_pad=1F5D2",
    "spiral_notepad=1F5D2 spiral_shell=1F41A sponge=1F9FD spoon=1F944 sport_utility_vehicle=1F699",
    "sports_medal=1F3C5 spouting_whale=1F433 squid=1F991 squinting_face_with_tongue=1F61D",
    "sri_lanka=1F1F1.1F1F0 st._barthélemy=1F1E7.1F1F1 st._helena=1F1F8.1F1ED",
    "st._kitts_&_nevis=1F1F0.1F1F3 st._lucia=1F1F1.1F1E8 st._martin=1F1F2.1F1EB",
    "st._pierre_&_miquelon=1F1F5.1F1F2 st._vincent_&_grenadines=1F1FB.1F1E8 stadium=1F3DF",
    "star=2B50 star-struck=1F929 star2=1F31F star_and_crescent=262A star_of_david=2721",
    "stars=1F320 station=1F689 statue_of_liberty=1F5FD steam_locomotive=1F682 steaming_bowl=1F35C",
    "stethoscope=1FA7A stew=1F372 stop_button=23F9 stop_sign=1F6D1 stopwatch=23F1",
    "straight_ruler=1F4CF strawberry=1F353 stuck_out_tongue=1F61B",
    "stuck_out_tongue_closed_eyes=1F61D stuck_out_tongue_winking_eye=1F61C",
    "studio_microphone=1F399 stuffed_flatbread=1F959 sudan=1F1F8.1F1E9 sun=2600",
    "sun_behind_cloud=26C5 sun_behind_large_cloud=1F325 sun_behind_rain_cloud=1F326",
    "sun_behind_small_cloud=1F324 sun_with_face=1F31E sunflower=1F33B sunglasses=1F60E sunny=2600",
    "sunrise=1F305 sunrise_over_mountains=1F304 sunset=1F307 superhero=1F9B8 supervillain=1F9B9",
    "surfer=1F3C4 suriname=1F1F8.1F1F7 sushi=1F363 suspension_railway=1F69F",
    "svalbard_&_jan_mayen=1F1F8.1F1EF swan=1F9A2 swaziland=1F1F8.1F1FF sweat=1F613",
    "sweat_droplets=1F4A6 sweat_drops=1F4A6 sweat_smile=1F605 sweden=1F1F8.1F1EA",
    "sweet_potato=1F360 swimmer=1F3CA switzerland=1F1E8.1F1ED symbols=1F523 synagogue=1F54D",
    "syria=1F1F8.1F1FE syringe=1F489 são_tomé_&_príncipe=1F1F8.1F1F9"]

end StackManifest.Console.Emoji
